import Mathlib
import ReleaseAudit.Decimal.Whole

/-!
# The order of numbers

All numbers lie on one line, and a comparison compares their places there. Only a comparison with
something that is not a number has no result.
-/

namespace ReleaseAudit.Decimal

open Float.Model (UnpackedFloat)

variable {u v : UnpackedFloat} {x y : Float}

/-- The place of a number on the line. Numbers of one sign are ordered by exponent and mantissa. -/
def rank : UnpackedFloat → ℤ ×ₗ ℤ ×ₗ ℤ
  | .infinity .negative => toLex (-2, toLex (0, 0))
  | .finite .negative m e _ => toLex (-1, toLex (-e, -m))
  | .zero _ | .notANumber => toLex (0, toLex (0, 0))
  | .finite .positive m e _ => toLex (1, toLex (e, m))
  | .infinity .positive => toLex (2, toLex (0, 0))

theorem compare_neg (a b : ℤ) : compare (-a) (-b) = (compare a b).swap := by
  have hanti : StrictAnti fun a : ℤ ↦ -a := fun _ _ ↦ neg_lt_neg
  rw [← cmp_eq_compare, ← cmp_eq_compare, cmp_swap]
  exact hanti.cmp_map_eq a b

theorem compare_natCast (m n : ℕ) : compare (m : ℤ) (n : ℤ) = compare m n := by
  rw [← cmp_eq_compare, ← cmp_eq_compare]
  exact Nat.strictMono_cast.cmp_map_eq m n

theorem compare_rank (hu : u ≠ .notANumber) (hv : v ≠ .notANumber) :
    u.compare v = some (compare (rank u) (rank v)) := by
  -- Only the order of two finite numbers of one sign is not read off their constructors.
  obtain (_ | _) | _ | _ | ⟨_ | _, m, e, hm⟩ := u <;>
    obtain (_ | _) | _ | _ | ⟨_ | _, m', e', hm'⟩ := v <;>
    first
    | contradiction
    | rfl
    | skip
  case finite.negative.finite.negative =>
    calc
      _ = some ((compare e e').then (compare m m')).swap := rfl
      _ = some ((compare (-e) (-e')).then (compare (-(m : ℤ)) (-(m' : ℤ)))) := by
        rw [Ordering.swap_then, compare_neg, compare_neg, compare_natCast]
  case finite.positive.finite.positive =>
    calc
      _ = some ((compare e e').then (compare m m')) := rfl
      _ = some ((compare e e').then (compare (m : ℤ) (m' : ℤ))) := by rw [compare_natCast]

/-! ## Floats -/

/-- The place of a float on the line; the two zeros share theirs. -/
def line (x : Float) : ℤ ×ₗ ℤ ×ₗ ℤ := rank x.toModel.unpack

theorem lt_iff_compare : x < y ↔ x.toModel.unpack.compare y.toModel.unpack = some .lt := by
  change decide (x.toModel.unpack.compare y.toModel.unpack == some .lt) ↔ _
  rw [decide_eq_true_iff, beq_iff_eq]

theorem beq_iff_compare : x == y ↔ x.toModel.unpack.compare y.toModel.unpack = some .eq := by
  change x.toModel.unpack.compare y.toModel.unpack == some .eq ↔ _
  rw [beq_iff_eq]

theorem compare_notANumber (h : u = .notANumber ∨ v = .notANumber) : u.compare v = none := by
  obtain rfl | rfl := h
  · rfl
  · cases u <;> rfl

theorem isNaN_iff_unpack : x.isNaN ↔ x.toModel.unpack = .notANumber := UnpackedFloat.isNaN_iff

theorem compare_unpack_eq_some_iff {o : Ordering} :
    x.toModel.unpack.compare y.toModel.unpack = some o ↔
      x.isNaN = false ∧ y.isNaN = false ∧ compare (line x) (line y) = o := by
  rw [← Bool.not_eq_true, ← Bool.not_eq_true, isNaN_iff_unpack, isNaN_iff_unpack]
  constructor
  · intro h
    have hx : x.toModel.unpack ≠ .notANumber := fun hx ↦ by simp [compare_notANumber (.inl hx)] at h
    have hy : y.toModel.unpack ≠ .notANumber := fun hy ↦ by simp [compare_notANumber (.inr hy)] at h
    exact ⟨hx, hy, Option.some.inj ((compare_rank hx hy).symm.trans h)⟩
  · rintro ⟨hx, hy, rfl⟩
    exact compare_rank hx hy

theorem lt_iff : x < y ↔ x.isNaN = false ∧ y.isNaN = false ∧ line x < line y := by
  rw [lt_iff_compare, compare_unpack_eq_some_iff, compare_lt_iff_lt]

theorem beq_iff : x == y ↔ x.isNaN = false ∧ y.isNaN = false ∧ line x = line y := by
  rw [beq_iff_compare, compare_unpack_eq_some_iff, compare_eq_iff_eq]

end ReleaseAudit.Decimal
