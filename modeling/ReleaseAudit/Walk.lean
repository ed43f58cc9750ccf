/-!
# Walks over finite sets

A walk that never visits an element of `known` twice ends, since fewer of them are left to visit after
each step.
-/

namespace ReleaseAudit.Walk

variable {α : Type} [DecidableEq α]

/-- The number of elements of `known` that have not been visited. -/
def left (known visited : List α) : Nat := known.countP (· ∉ visited)

theorem left_lt {known visited : List α} {a : α} (hk : a ∈ known) (hv : a ∉ visited) :
    left known (a :: visited) < left known visited := by
  induction known with
  | nil => contradiction
  | cons b rest ih =>
    have hle : List.countP (· ∉ a :: visited) rest ≤ List.countP (· ∉ visited) rest := by
      apply List.countP_mono_left
      intro x _ hx
      simp_all
    simp only [left, List.countP_cons] at ih ⊢
    rcases List.mem_cons.1 hk with rfl | hr
    · simp only [List.mem_cons, true_or, not_true_eq_false, decide_false, hv, not_false_eq_true,
        decide_true, if_true]
      simpa using Nat.lt_succ_of_le hle
    · have := ih hr
      have hb : (if decide (b ∉ a :: visited) = true then 1 else 0) ≤
          (if decide (b ∉ visited) = true then 1 else 0) := by
        by_cases h : b ∈ visited <;> simp [h]
        split <;> simp
      omega

end ReleaseAudit.Walk
