import ReleaseAudit.Proofs.History.Listing

/-!
# The order of a listing

The loop of the listing ends, lists no commit twice and no commit above one of its children, also when
there are cycles. What it leaves out has children that are left out as well, so that nothing is left
out of a graph without cycles. From a single commit without children it lists the same hashes, however
the commits were arranged and whatever parents are named again in front of their last naming.
-/

namespace ReleaseAudit.Topological

variable {commits : List (String × Commit)} {done ready : List String} {counts : List (String × Nat)}

/-! ## The rounds of the loop -/

/-- No count is zero when a child is taken off it. -/
def Covers : List (String × Nat) → List String → Prop
  | _, [] => True
  | counts, p :: ps => (∀ n, counts.lookup p = some n → 0 < n) ∧ Covers (lowered counts p) ps

theorem covers_of_count_le {parents : List String}
    (hle : ∀ x n, counts.lookup x = some n → parents.count x ≤ n) : Covers counts parents := by
  induction parents generalizing counts with
  | nil => trivial
  | cons p ps ih =>
    refine ⟨fun n hn ↦ ?_, ih (count_le_lowered hle)⟩
    have hcount := hle p n hn
    rw [List.count_cons_self] at hcount
    omega

/-- The loop of the listing with no bound on its rounds, and the hashes that it lists. In every round
the counts cover the parents of the commit that is listed. -/
inductive Rounds (commits : List (String × Commit)) :
    List (String × Nat) → List String → List String → Prop
  | ended {counts : List (String × Nat)} : Rounds commits counts [] []
  | next {counts : List (String × Nat)} {ready hashes : List String} {hash : String}
      {commit : Commit} : commits.lookup hash = some commit → Covers counts commit.parents →
      Rounds commits (release counts commit.parents).1
        (ready ++ (release counts commit.parents).2) hashes →
      Rounds commits counts (hash :: ready) (hash :: hashes)

theorem mem_of_lookup {α : Type} {l : List (String × α)} {key : String} {a : α}
    (h : l.lookup key = some a) : (key, a) ∈ l := by
  obtain ⟨front, back, hsplit, _⟩ := List.lookup_eq_some_iff.1 h
  simp [hsplit]

/-- The loop ends within its bound, which no round reaches with a commit left on `ready`. -/
theorem list_rounds (hnodup : (commits.map Prod.fst).Nodup) (fuel : Nat)
    (hlist : Listing commits done ready counts) (hfuel : commits.length ≤ done.length + fuel) :
    ∃ hashes rest, Rounds commits counts ready hashes ∧
      List.Forall₂ (fun hash commit ↦ (hash, commit) ∈ commits) hashes
        (list commits fuel counts ready) ∧
      Listing commits (done ++ hashes) [] rest := by
  induction fuel generalizing done ready counts with
  | zero =>
    -- all commits are listed, so that none is left on `ready`
    have hlength : (done ++ ready).length ≤ commits.length := by
      simpa using (hlist.nodup.subperm hlist.known).length_le
    have hready : ready = [] := by
      rw [List.length_append] at hlength
      exact List.eq_nil_of_length_eq_zero (by omega)
    subst hready
    exact ⟨[], counts, .ended, List.Forall₂.nil, by simpa using hlist⟩
  | succ fuel ih =>
    cases ready with
    | nil => exact ⟨[], counts, .ended, List.Forall₂.nil, by simpa using hlist⟩
    | cons hash ready =>
      obtain ⟨commit, hlookup, hmem⟩ := exists_lookup_eq_some (hlist.known hash (by simp))
      obtain ⟨hashes, rest, hrounds, hlisted, hrest⟩ := ih (hlist.step hnodup hmem) (by
        simp only [List.length_append, List.length_singleton]
        omega)
      have hcovers : Covers counts commit.parents :=
        covers_of_count_le (hlist.count_le hnodup hmem)
      refine ⟨hash :: hashes, rest, .next hlookup hcovers hrounds, ?_, by simpa using hrest⟩
      simp only [list, hlookup]
      exact List.Forall₂.cons hmem hlisted

theorem Rounds.unique {hashes others : List String} (hrounds : Rounds commits counts ready hashes)
    (hothers : Rounds commits counts ready others) : hashes = others := by
  induction hrounds generalizing others with
  | ended =>
    cases hothers
    rfl
  | next hlookup _ _ ih =>
    cases hothers with
    | next hlookup' _ hrest =>
      cases hlookup.symm.trans hlookup'
      rw [ih hrest]

/-- All children of a commit are listed above it. -/
theorem Rounds.children_above {hashes : List String} (hnodup : (commits.map Prod.fst).Nodup)
    (hrounds : Rounds commits counts ready hashes) (hlist : Listing commits done ready counts) :
    ∀ i (hi : i < hashes.length), ∀ entry ∈ commits, hashes[i] ∈ entry.2.parents →
      entry.1 ∈ done ++ hashes.take i := by
  induction hrounds generalizing done with
  | ended => exact fun i hi ↦ absurd hi (Nat.not_lt_zero i)
  | @next counts ready hashes hash commit hlookup _ _ ih =>
    intro i hi entry hentry hparent
    cases i with
    | zero =>
      have hready : hash ∈ done ++ hash :: ready := by simp
      have hzero : waiting commits done hash = 0 :=
        (hlist.complete hash (hlist.known hash hready)).1 hready
      have hdone : entry.1 ∈ done := by
        by_contra hnot
        exact waiting_eq_zero_iff.1 hzero entry hentry hnot hparent
      simpa using hdone
    | succ i =>
      have hrest := ih (hlist.step hnodup (mem_of_lookup hlookup)) i (Nat.lt_of_succ_lt_succ hi)
        entry hentry hparent
      simpa using hrest

/-- What the listing returns. Left out are only commits that have a child which is left out. -/
structure Ordered (commits : List (String × Commit)) (hashes : List String) (out : List Commit) :
    Prop where
  rounds : Rounds commits (firstCounts commits) (firstReady commits) hashes
  records : List.Forall₂ (fun hash commit ↦ (hash, commit) ∈ commits) hashes out
  nodup : hashes.Nodup
  children_above : ∀ i (hi : i < hashes.length), ∀ entry ∈ commits,
    hashes[i] ∈ entry.2.parents → entry.1 ∈ hashes.take i
  left_out : ∀ x ∈ commits.map Prod.fst, x ∉ hashes →
    ∃ entry ∈ commits, entry.1 ∉ hashes ∧ x ∈ entry.2.parents

theorem exists_ordered (hnodup : (commits.map Prod.fst).Nodup) :
    ∃ hashes, Ordered commits hashes (order commits) := by
  obtain ⟨hashes, rest, hrounds, hlisted, hlist⟩ :=
    list_rounds hnodup commits.length (listing_start hnodup) (by simp)
  rw [← order_eq] at hlisted
  rw [List.nil_append] at hlist
  refine ⟨hashes, hrounds, hlisted, by simpa using hlist.nodup,
    by simpa using hrounds.children_above hnodup (listing_start hnodup), fun x hx hout ↦ ?_⟩
  have hwaiting : ¬ waiting commits hashes x = 0 := fun hzero ↦
    hout (by simpa using (hlist.complete x hx).2 hzero)
  simpa [waiting_eq_zero_iff] using hwaiting

/-! ## Other arrangements and other namings -/

/-- The same commits in any order, with the same parents in the order of their last namings. -/
structure Alike (commits others : List (String × Commit)) : Prop where
  mem_iff : ∀ x, x ∈ commits.map Prod.fst ↔ x ∈ others.map Prod.fst
  parents : ∀ hash commit other, (hash, commit) ∈ commits → (hash, other) ∈ others →
    commit.parents.dedup = other.parents.dedup

namespace Alike

variable {others : List (String × Commit)}

theorem symm (halike : Alike commits others) : Alike others commits where
  mem_iff x := (halike.mem_iff x).symm
  parents hash other commit hother hcommit :=
    (halike.parents hash commit other hcommit hother).symm

theorem waiting_eq_zero (halike : Alike commits others) {x : String}
    (hzero : waiting commits done x = 0) : waiting others done x = 0 := by
  rw [waiting_eq_zero_iff] at hzero ⊢
  intro ⟨hash, other⟩ hother hdone hparent
  obtain ⟨commit, -, hcommit⟩ :=
    exists_lookup_eq_some ((halike.mem_iff hash).2 (List.mem_map_of_mem hother))
  rw [← List.mem_dedup, ← halike.parents hash commit other hcommit hother, List.mem_dedup] at hparent
  exact hzero (hash, commit) hcommit hdone hparent

theorem waiting_iff (halike : Alike commits others) {x : String} :
    waiting commits done x = 0 ↔ waiting others done x = 0 :=
  ⟨halike.waiting_eq_zero, halike.symm.waiting_eq_zero⟩

theorem rounds (halike : Alike commits others) (hnodup : (commits.map Prod.fst).Nodup)
    (hnodup' : (others.map Prod.fst).Nodup) {hashes : List String}
    (hrounds : Rounds commits counts ready hashes) (hlist : Listing commits done ready counts)
    {counts' : List (String × Nat)} (hlist' : Listing others done ready counts') :
    Rounds others counts' ready hashes := by
  induction hrounds generalizing done counts' with
  | ended => exact .ended
  | @next counts ready hashes hash commit hlookup _ _ ih =>
    have hmem : (hash, commit) ∈ commits := mem_of_lookup hlookup
    obtain ⟨other, hlookup', hmem'⟩ := exists_lookup_eq_some (hlist'.known hash (by simp))
    have hfree : (release counts' other.parents).2 = (release counts commit.parents).2 := by
      rw [hlist'.release_snd hnodup' hmem', hlist.release_snd hnodup hmem,
        halike.parents hash commit other hmem hmem']
      refine List.filter_congr fun x _ ↦ ?_
      rw [decide_eq_decide, halike.mem_iff, halike.waiting_iff]
    have hstep := hlist'.step hnodup' hmem'
    rw [hfree] at hstep
    refine .next hlookup' (covers_of_count_le (hlist'.count_le hnodup' hmem')) ?_
    rw [hfree]
    exact ih (hlist.step hnodup hmem) hstep

/-- With a single commit that has no children the loop starts in the same way. -/
theorem firstReady_eq (halike : Alike commits others) (hnodup : (commits.map Prod.fst).Nodup)
    (hnodup' : (others.map Prod.fst).Nodup) {head : String}
    (hsource : ∀ x ∈ firstReady commits, x = head) : firstReady commits = firstReady others := by
  have hmem (x : String) : x ∈ firstReady commits ↔ x ∈ firstReady others := by
    rw [mem_firstReady, mem_firstReady, halike.mem_iff, halike.waiting_iff]
  have hperm : (firstReady commits).Perm (firstReady others) :=
    (List.perm_ext_iff_of_nodup (hnodup.filter _) (hnodup'.filter _)).2 hmem
  calc
    firstReady commits = List.replicate (firstReady commits).length head :=
      List.eq_replicate_iff.2 ⟨rfl, hsource⟩
    _ = List.replicate (firstReady others).length head := by rw [hperm.length_eq]
    _ = firstReady others :=
      (List.eq_replicate_iff.2 ⟨rfl, fun x hx ↦ hsource x ((hmem x).2 hx)⟩).symm

/-- From a single commit without children the same hashes are listed. -/
theorem ordered (halike : Alike commits others) (hnodup : (commits.map Prod.fst).Nodup)
    (hnodup' : (others.map Prod.fst).Nodup) {head : String}
    (hsource : ∀ x ∈ firstReady commits, x = head) {hashes : List String} {out : List Commit}
    (hordered : Ordered commits hashes out) : Ordered others hashes (order others) := by
  obtain ⟨hashes', hordered'⟩ := exists_ordered hnodup'
  have hready : firstReady commits = firstReady others :=
    halike.firstReady_eq hnodup hnodup' hsource
  have hrounds : Rounds others (firstCounts others) (firstReady commits) hashes :=
    halike.rounds hnodup hnodup' hordered.rounds (listing_start hnodup)
      (hready ▸ listing_start hnodup')
  have heq : hashes' = hashes := hordered'.rounds.unique (hready ▸ hrounds)
  exact heq ▸ hordered'

end Alike

/-! ## Histories without cycles -/

/-- Nothing is left out of a history without cycles. -/
theorem Ordered.mem_iff {h : History} (hacyclic : h.Acyclic)
    (hserved : ∀ entry ∈ commits, h entry.1 = .ok entry.2) {hashes : List String}
    {out : List Commit} (hordered : Ordered commits hashes out) (x : String) :
    x ∈ hashes ↔ x ∈ commits.map Prod.fst := by
  constructor
  · intro hx
    obtain ⟨i, hi, rfl⟩ := List.mem_iff_getElem.1 hx
    obtain ⟨hlength, hrecord⟩ := List.forall₂_iff_get.1 hordered.records
    exact List.mem_map_of_mem (f := Prod.fst) (hrecord i hi (hlength ▸ hi))
  · refine hacyclic.descendants_induction _ (fun x hx ih ↦ ?_) x
    by_contra hnot
    obtain ⟨entry, hentry, hchild, hparent⟩ := hordered.left_out x hx hnot
    have hprec : h.Precedes entry.1 x :=
      Relation.TransGen.single ((History.parent_iff (hserved entry hentry)).2 hparent)
    exact hchild (ih entry.1 (List.mem_map_of_mem hentry) hprec)

/-- Commits of a history without cycles are all listed, each once. -/
theorem order_perm {h : History} (hacyclic : h.Acyclic) (hnodup : (commits.map Prod.fst).Nodup)
    (hserved : ∀ entry ∈ commits, h entry.1 = .ok entry.2) :
    (order commits).Perm (commits.map Prod.snd) := by
  obtain ⟨hashes, hordered⟩ := exists_ordered hnodup
  have hall := hordered.mem_iff hacyclic hserved
  obtain ⟨hlength, hzip⟩ := List.forall₂_iff_zip.1 hordered.records
  have hfst : (hashes.zip (order commits)).map Prod.fst = hashes := List.map_fst_zip hlength.le
  have hsnd : (hashes.zip (order commits)).map Prod.snd = order commits :=
    List.map_snd_zip hlength.ge
  have hpairs : (hashes.zip (order commits)).Perm commits := by
    refine (List.perm_ext_iff_of_nodup (List.Nodup.of_map Prod.fst (hfst.symm ▸ hordered.nodup))
      (List.Nodup.of_map Prod.fst hnodup)).2 fun entry ↦ ⟨fun hentry ↦ hzip hentry, fun hentry ↦ ?_⟩
    have hhash : entry.1 ∈ (hashes.zip (order commits)).map Prod.fst :=
      hfst.symm ▸ (hall entry.1).2 (List.mem_map_of_mem hentry)
    obtain ⟨other, hother, heq⟩ := List.mem_map.1 hhash
    have hsame : other = entry :=
      List.inj_on_of_nodup_map hnodup (hzip hother) hentry heq
    exact hsame ▸ hother
  exact hsnd ▸ hpairs.map Prod.snd

end ReleaseAudit.Topological
