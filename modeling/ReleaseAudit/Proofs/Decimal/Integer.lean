import Mathlib
import ReleaseAudit.Proofs.Decimal.Order
import ReleaseAudit.Proofs.Decimal.Positional

/-!
# Integers among the numbers

A finite number is a mantissa times a power of two. Where this is an integer, the sign of the number and
its cut to a range are those of the integer.
-/

namespace ReleaseAudit.Decimal

open Float.Model (Format UnpackedFloat)

open Float.Model.UnpackedFloat (Sign)

variable {x : Float} {s : Sign} {m : ℕ} {e n : ℤ}

/-- The rational number that a finite number is. -/
def value : UnpackedFloat → Option ℚ
  | .zero _ => some 0
  | .finite s m e _ => some (s.apply m * 2 ^ e)
  | .infinity _ | .notANumber => none

def IsInteger (x : Float) (n : ℤ) : Prop := value x.toModel.unpack = some (n : ℚ)

/-! ## Sign, mantissa and exponent -/

theorem twoPow_eq (k : ℕ) : twoPow k = 2 ^ k := rfl

theorem unpackSign_eq_zero_iff :
    @UnpackedFloat.unpackSign Format.binary64 x.toBits.toBitVec = 0#1 ↔ isNegative x = false := by
  have hhigh : x.toBits.toNat < 2 ^ 64 := x.toBits.toBitVec.isLt
  rw [← BitVec.toNat_inj, toNat_unpackSign, ← Bool.not_eq_true, isNegative_iff]
  change _ = 0 ↔ _
  omega

theorem sign_eq_negative_iff :
    Sign.ofBitVec (@UnpackedFloat.unpackSign Format.binary64 x.toBits.toBitVec) = .negative ↔
      isNegative x := by
  rw [Sign.ofBitVec]
  by_cases h : isNegative x
  · simp [unpackSign_eq_zero_iff, h]
  · simp [unpackSign_eq_zero_iff, h]

theorem parts_of_exponent
    (h : @UnpackedFloat.unpackExponent Format.binary64 x.toBits.toBitVec = 0#11) :
    parts x = ((@UnpackedFloat.unpackMantissa Format.binary64 x.toBits.toBitVec).toNat, -1074) := by
  have hexponent := congrArg BitVec.toNat h
  rw [toNat_unpackExponent] at hexponent
  change _ = 0 at hexponent
  have hbiased : x.toBits.toNat % 2 ^ 63 / 2 ^ 52 = 0 := by omega
  have hfraction : x.toBits.toNat % 2 ^ 63 % 2 ^ 52 = x.toBits.toNat % 2 ^ 52 := by omega
  simp only [parts, twoPow_eq, hbiased, hfraction, toNat_unpackMantissa, BEq.rfl, if_true]

theorem parts_of_exponent_ne_zero
    (h : @UnpackedFloat.unpackExponent Format.binary64 x.toBits.toBitVec ≠ 0#11) :
    parts x =
      ((1#1 ++ @UnpackedFloat.unpackMantissa Format.binary64 x.toBits.toBitVec).toNat,
        ((@UnpackedFloat.unpackExponent Format.binary64 x.toBits.toBitVec).toNat : ℤ) - 1075) := by
  have hne : x.toBits.toNat / 2 ^ 52 % 2 ^ 11 ≠ 0 := by
    rw [← toNat_unpackExponent]
    exact fun hzero ↦ h (BitVec.eq_of_toNat_eq hzero)
  have hbiased : x.toBits.toNat % 2 ^ 63 / 2 ^ 52 = x.toBits.toNat / 2 ^ 52 % 2 ^ 11 := by omega
  have hfraction : x.toBits.toNat % 2 ^ 63 % 2 ^ 52 = x.toBits.toNat % 2 ^ 52 := by omega
  have hlead : (1#1 ++ @UnpackedFloat.unpackMantissa Format.binary64 x.toBits.toBitVec).toNat =
      x.toBits.toNat % 2 ^ 52 + 2 ^ 52 := by
    rw [BitVec.toNat_append, toNat_unpackMantissa]
    change 2 ^ 52 ||| x.toBits.toNat % 2 ^ 52 = _
    rw [Nat.or_comm, Nat.or_two_pow_eq_add_of_lt (Nat.mod_lt _ (by decide))]
  rw [hlead, toNat_unpackExponent]
  simp only [parts, twoPow_eq, hbiased, hfraction, beq_iff_eq, if_neg hne]

/-- The fields of a number are those that its bits are read with. -/
theorem parts_of_finite {hm : 0 < m} (h : x.toModel.unpack = .finite s m e hm) :
    parts x = (m, e) ∧ (isNegative x ↔ s = .negative) := by
  change UnpackedFloat.unpack Format.binary64 x.toBits.toBitVec = _ at h
  unfold UnpackedFloat.unpack at h
  dsimp only at h
  split at h
  · split at h <;> cases h
  · split at h
    · rename_i hzero
      split at h
      · cases h
      · cases h
        refine ⟨?_, sign_eq_negative_iff.symm⟩
        rw [parts_of_exponent hzero, hzero]
        rfl
    · rename_i hne
      cases h
      exact ⟨parts_of_exponent_ne_zero hne, sign_eq_negative_iff.symm⟩

theorem parts_of_zero (h : x.toModel.unpack = .zero s) : parts x = (0, -1074) := by
  change UnpackedFloat.unpack Format.binary64 x.toBits.toBitVec = _ at h
  unfold UnpackedFloat.unpack at h
  dsimp only at h
  split at h
  · split at h <;> cases h
  · split at h
    · rename_i hzero
      split at h
      · rename_i hmantissa
        rw [parts_of_exponent hzero, hmantissa]
        rfl
      · cases h
    · cases h

/-! ## The integer -/

/-- Sign and magnitude of the integer that a number other than zero is. -/
theorem magnitude_of_finite {hm : 0 < m} (h : value (.finite s m e hm) = some (n : ℚ)) :
    (m : ℚ) * 2 ^ e = n.natAbs ∧ (n < 0 ↔ s = .negative) := by
  have hpos : (0 : ℚ) < m * 2 ^ e := by positivity
  have habs : (n.natAbs : ℚ) = |(n : ℚ)| := by rw [Nat.cast_natAbs, Int.cast_abs]
  rw [value, Option.some_inj] at h
  cases s with
  | negative =>
    have hn : (n : ℚ) = -(m * 2 ^ e) := by simpa [Sign.apply] using h.symm
    have hneg : (n : ℚ) < 0 := by rw [hn]; exact neg_neg_of_pos hpos
    refine ⟨?_, iff_of_true (by exact_mod_cast hneg) rfl⟩
    rw [habs, abs_of_neg hneg, hn, neg_neg]
  | positive =>
    have hn : (n : ℚ) = m * 2 ^ e := by simpa [Sign.apply] using h.symm
    have hnonneg : (0 : ℚ) ≤ n := by rw [hn]; exact hpos.le
    refine ⟨?_, iff_of_false (not_lt_of_ge (by exact_mod_cast hnonneg)) nofun⟩
    rw [habs, abs_of_nonneg hnonneg, hn]

theorem split_of_parts {k : ℕ} (hparts : parts x = (m, e)) (h : (m : ℚ) * 2 ^ e = k) :
    (split x).1 = k := by
  unfold split
  rw [hparts]
  dsimp only
  split
  case isTrue he =>
    obtain ⟨j, rfl⟩ := Int.eq_ofNat_of_zero_le he
    have hk : m * 2 ^ j = k := by exact_mod_cast h
    exact hk
  case isFalse he =>
    obtain ⟨j, rfl⟩ := Int.exists_eq_neg_ofNat (Int.le_of_not_le he)
    have hm : m = k * 2 ^ j := by
      rw [zpow_neg, ← div_eq_mul_inv, div_eq_iff (by positivity)] at h
      exact_mod_cast h
    rw [Int.natAbs_neg, Int.natAbs_natCast, twoPow_eq, hm]
    exact Nat.mul_div_cancel k (by positivity)

/-- A number that is an integer is a zero, or has the sign and the magnitude of the integer. -/
theorem isInteger_cases (h : IsInteger x n) :
    (∃ s, x.toModel.unpack = .zero s ∧ n = 0) ∨
    ∃ s m e hm, x.toModel.unpack = .finite s m e hm ∧ (m : ℚ) * 2 ^ e = n.natAbs ∧
      (n < 0 ↔ s = .negative) := by
  rw [IsInteger] at h
  cases hunpack : x.toModel.unpack with
  | notANumber | infinity => simp [hunpack, value] at h
  | zero s =>
    rw [hunpack, value, Option.some_inj, eq_comm, Int.cast_eq_zero] at h
    exact .inl ⟨s, rfl, h⟩
  | finite s m e hm =>
    rw [hunpack] at h
    exact .inr ⟨s, m, e, hm, rfl, magnitude_of_finite h⟩

theorem isFinite_of_isInteger (h : IsInteger x n) : isFinite x := by
  have hkind : isFinite x = (!x.toModel.unpack.isNaN && !x.toModel.unpack.isInf) := rfl
  rw [hkind]
  obtain ⟨s, hzero, -⟩ | ⟨s, m, e, hm, hfinite, -⟩ := isInteger_cases h
  · rw [hzero]
    rfl
  · rw [hfinite]
    rfl

/-- An integer is less than zero as a number when it is as an integer. -/
theorem lt_zero_iff (h : IsInteger x n) : x < 0 ↔ n < 0 := by
  have hline : line (0 : Float) = toLex (0, toLex (0, 0)) := by decide +kernel
  have hnan : (0 : Float).isNaN = false := by decide +kernel
  have hx : x.isNaN = x.toModel.unpack.isNaN := rfl
  rw [lt_iff, hline, hnan, hx, line]
  obtain ⟨s, hzero, rfl⟩ | ⟨s, m, e, hm, hfinite, -, hsign⟩ := isInteger_cases h
  · simp [hzero, rank]
  · rw [hfinite, hsign]
    cases s <;> simp [rank, UnpackedFloat.isNaN, Prod.Lex.toLex_lt_toLex]

theorem split_of_isInteger (h : IsInteger x n) : (split x).1 = n.natAbs := by
  obtain ⟨s, hzero, rfl⟩ | ⟨s, m, e, hm, hfinite, hmagnitude, -⟩ := isInteger_cases h
  · exact split_of_parts (parts_of_zero hzero) (by simp)
  · exact split_of_parts (parts_of_finite hfinite).1 hmagnitude

/-- The sign of the number does not matter where the integer is zero. -/
theorem signed_natAbs (h : IsInteger x n) :
    (if isNegative x then -(n.natAbs : ℤ) else n.natAbs) = n := by
  obtain ⟨s, -, rfl⟩ | ⟨s, m, e, hm, hfinite, -, hsign⟩ := isInteger_cases h
  · simp
  · have hnegative : isNegative x ↔ n < 0 := (parts_of_finite hfinite).2.trans hsign.symm
    rw [if_congr hnegative rfl rfl]
    split <;> omega

theorem truncate_of_isInteger (h : IsInteger x n) (lo hi : ℤ) :
    truncate lo hi x = max lo (min hi n) := by
  have hfinite : x.isNaN = false ∧ x.isInf = false := by
    simpa [isFinite] using isFinite_of_isInteger h
  rw [truncate, hfinite.1, hfinite.2, if_neg Bool.false_ne_true, if_neg Bool.false_ne_true]
  dsimp only
  rw [split_of_isInteger h, signed_natAbs h]

end ReleaseAudit.Decimal
