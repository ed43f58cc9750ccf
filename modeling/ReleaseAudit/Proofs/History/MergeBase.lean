import ReleaseAudit.Proofs.History.Ancestry

/-!
# Best common ancestors

The merge bases of two commits are their common ancestors that no other common ancestor has in its
history. In a graph without cycles every common ancestor is in the history of a best one, so that a
single best one stands for all of them.
-/

namespace ReleaseAudit

namespace History

variable {h : History} {a b : String}

def Common (h : History) (a b hash : String) : Prop := h.Reaches a hash ∧ h.Reaches b hash

def Best (h : History) (a b hash : String) : Prop :=
  h.Common a b hash ∧ ∀ other, h.Common a b other → ¬ h.Precedes other hash

theorem Common.ancestor {hash ancestor : String} (hcommon : h.Common a b hash)
    (hreach : h.Reaches hash ancestor) : h.Common a b ancestor :=
  ⟨hcommon.1.trans hreach, hcommon.2.trans hreach⟩

/-- Every common ancestor is in the history of a best one. -/
theorem exists_best (hacyclic : h.Acyclic) {known : List String}
    (hknown : ∀ x, h.Reaches a x → x ∈ known) {hash : String} (hcommon : h.Common a b hash) :
    ∃ base, h.Best a b base ∧ h.Reaches base hash := by
  have hall := hacyclic.descendants_induction known
    (motive := fun x ↦ h.Common a b x → ∃ base, h.Best a b base ∧ h.Reaches base x)
  refine hall ?_ hash (hknown hash hcommon.1) hcommon
  intro x _ ih hx
  by_cases hbest : h.Best a b x
  · exact ⟨x, hbest, Reaches.refl x⟩
  · obtain ⟨other, hother, hprec⟩ : ∃ other, h.Common a b other ∧ h.Precedes other x := by
      simpa [Best, hx] using hbest
    obtain ⟨base, hbase, hreach⟩ := ih other (hknown other hother.1) hprec hother
    exact ⟨base, hbase, hreach.trans hprec.reaches⟩

/-- The outcome of looking for the best common ancestors. -/
structure BestAncestors (h : History) (a b : String) (bases : List String) : Prop where
  present : ∀ x, h.Reaches a x ∨ h.Reaches b x → ∃ commit, h x = .ok commit
  finite : ∃ known : List String, ∀ x, h.Reaches a x → x ∈ known
  mem_iff : ∀ x, x ∈ bases ↔ h.Best a b x
  nodup : bases.Nodup
  sorted : bases.Pairwise (· ≤ ·)

/-- A single best common ancestor has all others in its history. -/
theorem BestAncestors.reaches_common (hacyclic : h.Acyclic) {base : String}
    (hbases : h.BestAncestors a b [base]) {hash : String} :
    h.Common a b hash ↔ h.Reaches base hash := by
  have hbest : h.Best a b base := (hbases.mem_iff base).1 List.mem_cons_self
  constructor
  · intro hcommon
    obtain ⟨known, hknown⟩ := hbases.finite
    obtain ⟨other, hother, hreach⟩ := exists_best hacyclic hknown hcommon
    have heq : other = base := by simpa using (hbases.mem_iff other).2 hother
    exact heq ▸ hreach
  · exact hbest.1.ancestor

end History

namespace CommitGraph

variable {σ : Type} {g : CommitGraph σ} {valid : σ → Prop} {h : History}

theorem parentsOf_ensures (hg : g.Serves valid h) (hashes : List String) :
    Access.Ensures valid (g.parentsOf hashes) fun
      | .ok parents => ∀ x, x ∈ parents ↔ ∃ y ∈ hashes, h.Parent y x
      | .error e => ∃ y ∈ hashes, h y = .error e := by
  induction hashes with
  | nil => exact Access.ensures_pure (by simp)
  | cons hash rest ih =>
    refine hg.bind_fetch (fun e he ↦ ⟨hash, List.mem_cons_self, he⟩) fun commit hk hc ↦ ?_
    refine ih.bind ?_ fun parents hparents ↦ Access.ensures_pure fun x ↦ ?_
    · rintro e ⟨y, hy, he⟩
      exact ⟨y, List.mem_cons_of_mem _ hy, he⟩
    · simp [hparents, History.parent_iff hc]

theorem sortHashes_pairwise (hashes : List String) :
    (sortHashes hashes).Pairwise (· ≤ ·) := by
  have htrans (a b c : String) (hab : decide (a ≤ b) = true) (hbc : decide (b ≤ c) = true) :
      decide (a ≤ c) = true := by
    simp only [decide_eq_true_eq] at *
    exact String.le_trans hab hbc
  have htotal (a b : String) : (decide (a ≤ b) || decide (b ≤ a)) = true := by
    simpa using String.le_total a b
  simpa [sortHashes] using List.pairwise_mergeSort htrans htotal hashes

/-- The common ancestors that are left are those that no common ancestor precedes. -/
theorem mergeBases_ensures (hg : g.Serves valid h) (a b : String) :
    Access.Ensures valid (g.mergeBases a b) fun
      | .ok bases => h.BestAncestors a b bases
      | .error e => h.Blocked [a, b] e := by
  refine (ancestors_walked hg a).bind ?_ fun left hleft ↦ ?_
  · rintro e ⟨p, hp, hx⟩
    exact ⟨p, by simp_all, hx⟩
  refine (ancestors_walked hg b).bind ?_ fun right hright ↦ ?_
  · rintro e ⟨p, hp, hx⟩
    exact ⟨p, by simp_all, hx⟩
  have hleft_iff (x : String) : x ∈ left ↔ h.Reaches a x := by simpa using hleft.mem_iff
  have hright_iff (x : String) : x ∈ right ↔ h.Reaches b x := by simpa using hright.mem_iff
  have hcommon (x : String) : x ∈ left.reverse.filter (· ∈ right) ↔ h.Common a b x := by
    simp [History.Common, hleft_iff, hright_iff]
  refine (parentsOf_ensures hg _).bind ?_ fun parents hparents ↦ ?_
  · rintro e ⟨y, hy, he⟩
    exact ⟨a, List.mem_cons_self, y, ((hcommon y).1 hy).1, he⟩
  refine (collectBreadthFirst_walked hg [] parents).bind ?_ fun redundant hredundant ↦ ?_
  · rintro e ⟨p, hp, x, hpx, he⟩
    obtain ⟨y, hy, hparent⟩ := (hparents p).1 hp
    exact ⟨a, List.mem_cons_self, x, (((hcommon y).1 hy).1.trans hparent.reaches).trans hpx, he⟩
  -- redundant are the proper ancestors of the common ancestors
  have hredundant_iff (x : String) : x ∈ redundant ↔ ∃ y, h.Common a b y ∧ h.Precedes y x := by
    rw [hredundant.mem_iff]
    constructor
    · rintro ⟨p, hp, hpx⟩
      obtain ⟨y, hy, hparent⟩ := (hparents p).1 hp
      exact ⟨y, (hcommon y).1 hy, History.precedes_iff.2 ⟨p, hparent, hpx⟩⟩
    · rintro ⟨y, hy, hprec⟩
      obtain ⟨p, hparent, hpx⟩ := History.precedes_iff.1 hprec
      exact ⟨p, (hparents p).2 ⟨y, (hcommon y).2 hy, hparent⟩, hpx⟩
  refine Access.ensures_pure
    { present := ?_, finite := ⟨left, fun x ↦ (hleft_iff x).2⟩, mem_iff := fun x ↦ ?_,
      nodup := ?_, sorted := sortHashes_pairwise _ }
  · rintro x (hx | hx)
    · exact (hleft.present ((hleft_iff x).2 hx)).imp fun _ ↦ And.left
    · exact (hright.present ((hright_iff x).2 hx)).imp fun _ ↦ And.left
  · rw [sortHashes, List.mem_mergeSort, List.mem_filter, hcommon]
    simp [History.Best, hredundant_iff]
  · have hnodup : left.reverse.Nodup := List.nodup_reverse.2 (hleft.nodup List.nodup_nil)
    exact (List.mergeSort_perm _ _).nodup_iff.2 ((hnodup.filter _).filter _)

end CommitGraph

end ReleaseAudit
