import Mathlib.Algebra.GroupWithZero.Nat
import ReleaseAudit.Proofs.History.Ancestry

/-!
# Listing children before parents

The listing counts for every commit the children that are still to be listed, and lists a commit when
there are none left. What the counts say about the commits listed so far is an invariant of the loop,
which every round keeps.
-/

namespace ReleaseAudit.Topological

variable {commits : List (String × Commit)} {done ready : List String} {counts : List (String × Nat)}

/-! ## Counts -/

/-- How often a commit is a parent of one that is not yet listed. -/
def waiting (commits : List (String × Commit)) (done : List String) (hash : String) : Nat :=
  (commits.map fun entry ↦ if entry.1 ∈ done then 0 else entry.2.parents.count hash).sum

theorem waiting_cons (entry : String × Commit) (rest : List (String × Commit)) (hash : String) :
    waiting (entry :: rest) done hash =
      (if entry.1 ∈ done then 0 else entry.2.parents.count hash) + waiting rest done hash := by
  simp [waiting]

theorem waiting_nil (hash : String) : waiting commits [] hash = childCount commits hash := by
  simp [waiting, childCount, List.count_flatMap, Function.comp_def]

theorem waiting_eq_zero_iff {hash : String} :
    waiting commits done hash = 0 ↔
      ∀ entry ∈ commits, entry.1 ∉ done → hash ∉ entry.2.parents := by
  rw [waiting, List.sum_eq_zero_iff_forall_eq_nat, List.forall_mem_map]
  refine forall₂_congr fun entry _ ↦ ?_
  by_cases hdone : entry.1 ∈ done <;> simp [hdone, List.count_eq_zero]

/-- A commit that is not there takes nothing off. -/
theorem waiting_concat_of_notMem {hash : String} (hfresh : hash ∉ commits.map Prod.fst)
    (parent : String) : waiting commits (done ++ [hash]) parent = waiting commits done parent := by
  unfold waiting
  congr 1
  refine List.map_congr_left fun entry hentry ↦ ?_
  have hne : entry.1 ≠ hash := fun heq ↦ hfresh (heq ▸ List.mem_map_of_mem hentry)
  simp [hne]

/-- Listing one more commit takes its own parents off. -/
theorem waiting_concat (hnodup : (commits.map Prod.fst).Nodup) {hash : String} {commit : Commit}
    (hmem : (hash, commit) ∈ commits) (hdone : hash ∉ done) (parent : String) :
    waiting commits done parent =
      waiting commits (done ++ [hash]) parent + commit.parents.count parent := by
  induction commits with
  | nil => contradiction
  | cons entry rest ih =>
    obtain ⟨hfresh, hrest⟩ := List.nodup_cons.1 hnodup
    simp only [waiting_cons]
    rcases List.mem_cons.1 hmem with rfl | hmem
    · simp [waiting_concat_of_notMem hfresh, hdone, Nat.add_comm]
    · have hne : entry.1 ≠ hash := fun heq ↦
        hfresh (heq ▸ List.mem_map_of_mem (f := Prod.fst) hmem)
      simp [ih hrest hmem, hne, Nat.add_assoc]

theorem exists_lookup_eq_some {α : Type} {l : List (String × α)} {key : String}
    (hkey : key ∈ l.map Prod.fst) : ∃ a, l.lookup key = some a ∧ (key, a) ∈ l := by
  induction l with
  | nil => simp at hkey
  | cons entry rest ih =>
    obtain ⟨k, a⟩ := entry
    by_cases heq : key = k
    · subst heq
      exact ⟨a, List.lookup_cons_self, List.mem_cons_self⟩
    · have hbeq : (key == k) = false := by simpa using heq
      obtain ⟨b, hlookup, hmem⟩ := ih ((List.mem_cons.1 hkey).resolve_left heq)
      exact ⟨b, by simpa [List.lookup_cons, hbeq] using hlookup, List.mem_cons_of_mem _ hmem⟩

theorem lookup_map_snd {α β : Type} (f : String → α → β) (l : List (String × α)) (key : String) :
    (l.map fun (k, a) ↦ (k, f k a)).lookup key = (l.lookup key).map (f key) := by
  induction l with
  | nil => rfl
  | cons entry rest ih =>
    obtain ⟨k, a⟩ := entry
    by_cases hkey : key = k
    · simp [hkey]
    · have hbeq : (key == k) = false := by simpa using hkey
      simp [List.lookup_cons, hbeq, ih]

/-- The counts after one child was taken off that of `parent`. -/
def lowered (counts : List (String × Nat)) (parent : String) : List (String × Nat) :=
  counts.map fun (hash, n) ↦ (hash, if hash = parent then n - 1 else n)

theorem lookup_lowered (counts : List (String × Nat)) (parent hash : String) :
    (lowered counts parent).lookup hash =
      (counts.lookup hash).map fun n ↦ if hash = parent then n - 1 else n :=
  lookup_map_snd (fun hash n ↦ if hash = parent then n - 1 else n) counts hash

theorem count_le_lowered {p : String} {ps : List String}
    (hle : ∀ x n, counts.lookup x = some n → (p :: ps).count x ≤ n) :
    ∀ x n, (lowered counts p).lookup x = some n → ps.count x ≤ n := by
  intro x n hn
  rw [lookup_lowered, Option.map_eq_some_iff] at hn
  obtain ⟨m, hm, rfl⟩ := hn
  have hcount := hle x m hm
  rw [List.count_cons] at hcount
  by_cases hx : x = p
  · simp only [hx, beq_self_eq_true, if_true] at hcount ⊢
    omega
  · simp only [hx, if_false]
    omega

theorem release_cons_of_none {p : String} {ps : List String} (hlookup : counts.lookup p = none) :
    release counts (p :: ps) = release counts ps := by
  simp only [release, hlookup]

theorem release_cons_of_some {p : String} {ps : List String} {n : Nat}
    (hlookup : counts.lookup p = some n) :
    release counts (p :: ps) =
      ((release (lowered counts p) ps).1,
        if n = 1 then p :: (release (lowered counts p) ps).2
        else (release (lowered counts p) ps).2) := by
  simp only [release, hlookup]
  rfl

theorem lookup_release (counts : List (String × Nat)) (parents : List String) (hash : String) :
    (release counts parents).1.lookup hash =
      (counts.lookup hash).map (· - parents.count hash) := by
  induction parents generalizing counts with
  | nil => simp [release]
  | cons p ps ih =>
    cases hlookup : counts.lookup p with
    | none =>
      rw [release_cons_of_none hlookup, ih]
      by_cases hp : p = hash
      · simp [← hp, hlookup]
      · simp [hp]
    | some n =>
      rw [release_cons_of_some hlookup, ih, lookup_lowered, Option.map_map]
      congr 1
      funext m
      by_cases hp : hash = p
      · simp [hp, Nat.sub_sub, Nat.add_comm]
      · simp [hp, Ne.symm hp]

/-- Released are the commits whose last children are among those taken off, in the order in which
`parents` names them for the last time. -/
theorem release_snd {parents : List String}
    (hle : ∀ x n, counts.lookup x = some n → parents.count x ≤ n) :
    (release counts parents).2 =
      parents.dedup.filter fun x ↦ counts.lookup x = some (parents.count x) := by
  induction parents generalizing counts with
  | nil => simp [release]
  | cons p ps ih =>
    cases hlookup : counts.lookup p with
    | none =>
      have hsame (x : String) :
          counts.lookup x = some (ps.count x) ↔ counts.lookup x = some ((p :: ps).count x) := by
        by_cases hx : p = x
        · simp [← hx, hlookup]
        · simp [hx]
      have hrest : ∀ x n, counts.lookup x = some n → ps.count x ≤ n := fun x n hn ↦
        Nat.le_trans List.count_le_count_cons (hle x n hn)
      rw [release_cons_of_none hlookup, ih hrest]
      simp only [hsame]
      by_cases hmem : p ∈ ps
      · rw [List.dedup_cons_of_mem hmem]
      · rw [List.dedup_cons_of_notMem hmem, List.filter_cons_of_neg (by simp [hlookup])]
    | some n =>
      have hn : ps.count p + 1 ≤ n := by simpa using hle p n hlookup
      have hsame (x : String) : (lowered counts p).lookup x = some (ps.count x) ↔
          counts.lookup x = some ((p :: ps).count x) := by
        rw [lookup_lowered]
        by_cases hx : x = p
        · subst hx
          simp only [hlookup, Option.map_some, if_true, Option.some.injEq, List.count_cons_self]
          omega
        · simp [hx, Ne.symm hx]
      rw [release_cons_of_some hlookup, ih (count_le_lowered hle)]
      simp only [hsame]
      by_cases hmem : p ∈ ps
      · have hpos : 0 < ps.count p := List.count_pos_iff.2 hmem
        rw [List.dedup_cons_of_mem hmem, if_neg (by omega)]
      · have hzero : ps.count p = 0 := List.count_eq_zero.2 hmem
        rw [List.dedup_cons_of_notMem hmem, List.filter_cons]
        simp [hlookup, hzero]

/-! ## The invariant of the loop -/

/-- The commits `done` are listed, those on `ready` wait for no child, and the others are counted. -/
structure Listing (commits : List (String × Commit)) (done ready : List String)
    (counts : List (String × Nat)) : Prop where
  nodup : (done ++ ready).Nodup
  known : ∀ x ∈ done ++ ready, x ∈ commits.map Prod.fst
  complete : ∀ x ∈ commits.map Prod.fst, x ∈ done ++ ready ↔ waiting commits done x = 0
  counted : ∀ x, counts.lookup x =
    if x ∈ commits.map Prod.fst ∧ childCount commits x ≠ 0 then some (waiting commits done x)
    else none

theorem lookup_filter_snd {α : Type} (f : String → α) (p : α → Bool) (keys : List String)
    (key : String) :
    ((keys.map fun k ↦ (k, f k)).filter (p ·.2)).lookup key =
      if key ∈ keys ∧ p (f key) then some (f key) else none := by
  induction keys with
  | nil => simp
  | cons k rest ih =>
    simp only [List.map_cons, List.filter_cons, List.mem_cons]
    by_cases hkey : key = k
    · by_cases hp : p (f k)
      · simp [hkey, hp]
      · rw [if_neg hp, ih]
        simp [hkey, hp]
    · have hbeq : (key == k) = false := by simpa using hkey
      have hskip (l : List (String × α)) : ((k, f k) :: l).lookup key = l.lookup key := by
        simp [List.lookup_cons, hbeq]
      split <;> simp only [hskip, ih, hkey, false_or]

/-- The commits that have children, with their number. -/
def firstCounts (commits : List (String × Commit)) : List (String × Nat) :=
  (commits.map fun (hash, _) ↦ (hash, childCount commits hash)).filter (·.2 != 0)

def firstReady (commits : List (String × Commit)) : List String :=
  (commits.map Prod.fst).filter (childCount commits · == 0)

theorem mem_firstReady {x : String} :
    x ∈ firstReady commits ↔ x ∈ commits.map Prod.fst ∧ waiting commits [] x = 0 := by
  rw [firstReady, List.mem_filter, waiting_nil, beq_iff_eq]

theorem order_eq (commits : List (String × Commit)) :
    order commits = list commits commits.length (firstCounts commits) (firstReady commits) := rfl

theorem listing_start (hnodup : (commits.map Prod.fst).Nodup) :
    Listing commits [] (firstReady commits) (firstCounts commits) where
  nodup := hnodup.filter _
  known x hx := (mem_firstReady.1 hx).1
  complete x hx := by
    rw [List.nil_append, mem_firstReady]
    exact and_iff_right hx
  counted x := by
    have hmap : (commits.map fun (hash, _) ↦ (hash, childCount commits hash)) =
        (commits.map Prod.fst).map fun hash ↦ (hash, childCount commits hash) := by
      simp [Function.comp_def]
    rw [firstCounts, hmap, lookup_filter_snd (childCount commits) (· != 0), waiting_nil]
    exact if_congr (by simp) rfl rfl

theorem Listing.notMem {hash : String} (hlist : Listing commits done (hash :: ready) counts) :
    hash ∉ done := by
  have hnodup := hlist.nodup
  simp only [List.nodup_append, List.nodup_cons] at hnodup
  exact fun hin ↦ hnodup.2.2 hash hin hash List.mem_cons_self rfl

/-- The counts are high enough for all children that the first commit on `ready` takes off. -/
theorem Listing.count_le {hash : String} {commit : Commit} (hnodup : (commits.map Prod.fst).Nodup)
    (hmem : (hash, commit) ∈ commits) (hlist : Listing commits done (hash :: ready) counts)
    (x : String) (n : Nat) (hn : counts.lookup x = some n) : commit.parents.count x ≤ n := by
  have hwaiting := waiting_concat hnodup hmem hlist.notMem x
  rw [hlist.counted] at hn
  split at hn
  · cases hn
    omega
  · cases hn

/-- What becomes ready depends on the parents of the commit in the order of their last namings. -/
theorem Listing.release_snd {hash : String} {commit : Commit}
    (hnodup : (commits.map Prod.fst).Nodup) (hmem : (hash, commit) ∈ commits)
    (hlist : Listing commits done (hash :: ready) counts) :
    (release counts commit.parents).2 = commit.parents.dedup.filter fun x ↦
      x ∈ commits.map Prod.fst ∧ waiting commits (done ++ [hash]) x = 0 := by
  rw [Topological.release_snd (hlist.count_le hnodup hmem)]
  refine List.filter_congr fun x hx ↦ ?_
  have hparent : x ∈ commit.parents := List.mem_dedup.1 hx
  have hcount : childCount commits x ≠ 0 := by
    rw [← waiting_nil, Ne, waiting_eq_zero_iff]
    exact fun hnone ↦ hnone (hash, commit) hmem List.not_mem_nil hparent
  have hwaiting := waiting_concat hnodup hmem hlist.notMem x
  rw [decide_eq_decide, hlist.counted]
  by_cases hkey : x ∈ commits.map Prod.fst
  · simp only [hkey, hcount, ne_eq, not_false_eq_true, and_self, if_true, Option.some.injEq, true_and]
    omega
  · simp [hkey]

/-- Listing the first commit on `ready` keeps the invariant. -/
theorem Listing.step {hash : String} {commit : Commit} (hnodup : (commits.map Prod.fst).Nodup)
    (hmem : (hash, commit) ∈ commits) (hlist : Listing commits done (hash :: ready) counts) :
    Listing commits (done ++ [hash]) (ready ++ (release counts commit.parents).2)
      (release counts commit.parents).1 := by
  have hwaiting := waiting_concat hnodup hmem hlist.notMem
  -- what is released was still waiting, but for children of this commit only
  have hfree (x : String) : x ∈ (release counts commit.parents).2 ↔
      x ∈ commits.map Prod.fst ∧ waiting commits done x ≠ 0 ∧
        waiting commits (done ++ [hash]) x = 0 := by
    have hx := hwaiting x
    have hcount : x ∈ commit.parents ↔ commit.parents.count x ≠ 0 := by
      rw [← List.count_pos_iff, Nat.pos_iff_ne_zero]
    rw [hlist.release_snd hnodup hmem, List.mem_filter, List.mem_dedup, decide_eq_true_iff, hcount]
    constructor
    · rintro ⟨hparent, hkey, hzero⟩
      exact ⟨hkey, by omega, hzero⟩
    · rintro ⟨hkey, hne, hzero⟩
      exact ⟨by omega, hkey, hzero⟩
  have hsplit : done ++ [hash] ++ (ready ++ (release counts commit.parents).2) =
      (done ++ hash :: ready) ++ (release counts commit.parents).2 := by simp
  refine ⟨?_, ?_, ?_, ?_⟩
  · rw [hsplit, List.nodup_append]
    have hreleased : (release counts commit.parents).2.Nodup := by
      rw [hlist.release_snd hnodup hmem]
      exact (List.nodup_dedup _).filter _
    refine ⟨hlist.nodup, hreleased, fun x hx y hy heq ↦ ?_⟩
    obtain ⟨hkey, hne, _⟩ := (hfree y).1 hy
    exact hne ((hlist.complete y hkey).1 (heq ▸ hx))
  · intro x hx
    rw [hsplit] at hx
    rcases List.mem_append.1 hx with hx | hx
    · exact hlist.known x hx
    · exact ((hfree x).1 hx).1
  · intro x hkey
    rw [hsplit, List.mem_append, hlist.complete x hkey, hfree]
    have hx := hwaiting x
    simp only [hkey, true_and]
    omega
  · intro x
    have hx := hwaiting x
    rw [lookup_release, hlist.counted]
    split
    · simp only [Option.map_some, Option.some.injEq]
      omega
    · rfl

end ReleaseAudit.Topological
