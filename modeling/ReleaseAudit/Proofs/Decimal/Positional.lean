import Mathlib
import ReleaseAudit.Decimal.Whole

/-!
# The text of a number

A finite number that has no sign is written with digits, and with a point between them when it is
not whole.
-/

namespace ReleaseAudit.Decimal

open Float.Model

variable {x y : Float} {ds : List Char} {digits : Nat} {exponent : Int}

/-! ## The sign -/

theorem isNegative_iff : isNegative x ↔ 2 ^ 63 ≤ x.toBits.toNat := by
  rw [isNegative, decide_eq_true_iff]
  rfl

theorem toNat_unpackSign :
    (@UnpackedFloat.unpackSign Format.binary64 x.toBits.toBitVec).toNat =
      x.toBits.toNat / 2 ^ 63 % 2 := by
  simp [UnpackedFloat.unpackSign, Nat.shiftRight_eq_div_pow]

theorem toNat_unpackExponent :
    (@UnpackedFloat.unpackExponent Format.binary64 x.toBits.toBitVec).toNat =
      x.toBits.toNat / 2 ^ 52 % 2 ^ 11 := by
  simp [UnpackedFloat.unpackExponent, Nat.shiftRight_eq_div_pow]

theorem toNat_unpackMantissa :
    (@UnpackedFloat.unpackMantissa Format.binary64 x.toBits.toBitVec).toNat =
      x.toBits.toNat % 2 ^ 52 := by
  simp [UnpackedFloat.unpackMantissa]

theorem eq_of_toNat_toBits (h : x.toBits.toNat = y.toBits.toNat) : x = y := by
  obtain ⟨⟨a, ha⟩⟩ := x
  obtain ⟨⟨b, hb⟩⟩ := y
  have hab : a = b := UInt64.toNat_inj.1 h
  subst hab
  rfl

/-- Only negative zero has a sign without being less than zero. -/
theorem eq_negative_zero (h : 0 ≤ x) (hx : isNegative x) : x = -0.0 := by
  have hlow : 2 ^ 63 ≤ x.toBits.toNat := isNegative_iff.1 hx
  have hhigh : x.toBits.toNat < 2 ^ 64 := x.toBits.toBitVec.isLt
  have hsign : @UnpackedFloat.unpackSign Format.binary64 x.toBits.toBitVec = 1#1 := by
    apply BitVec.eq_of_toNat_eq
    rw [toNat_unpackSign]
    change _ = 1
    omega
  have hle : (UnpackedFloat.zero .positive).le
      (UnpackedFloat.unpack Format.binary64 x.toBits.toBitVec) := of_decide_eq_true h
  unfold UnpackedFloat.unpack at hle
  simp only [hsign] at hle
  -- Infinities and numbers other than zero are less than zero when they have the sign.
  split at hle
  case isTrue => split at hle <;> cases hle
  case isFalse =>
    split at hle
    case isFalse => cases hle
    case isTrue hexponent =>
      split at hle
      case isFalse => cases hle
      case isTrue hmantissa =>
        have he : 0 = x.toBits.toNat / 2 ^ 52 % 2 ^ 11 := by
          rw [← toNat_unpackExponent, hexponent]
          rfl
        have hm : 0 = x.toBits.toNat % 2 ^ 52 := by
          rw [← toNat_unpackMantissa, hmantissa]
          rfl
        have hzero : (-0.0 : Float).toBits.toNat = 2 ^ 63 := by with_unfolding_all rfl
        apply eq_of_toNat_toBits
        omega

/-! ## The digits -/

/-- A text of digits that is not empty. -/
def IsDigits (ds : List Char) : Prop := ds ≠ [] ∧ ∀ d ∈ ds, d.isDigit

/-- Digits, perhaps with a point and more digits. -/
inductive IsPlain : List Char → Prop
  | whole {ds : List Char} : IsDigits ds → IsPlain ds
  | point {ds es : List Char} : IsDigits ds → IsDigits es → IsPlain (ds ++ '.' :: es)

theorem isDigits_toDigits (n : Nat) : IsDigits (Nat.toDigits 10 n) := by
  constructor
  · exact List.ne_nil_of_length_pos Nat.length_toDigits_pos
  · intro d hd
    exact Nat.isDigit_of_mem_toDigits (by decide) (Nat.le_refl 10) hd

theorem isDigit_of_mem_zeros {n : Nat} {d : Char} (hd : d ∈ List.replicate n '0') : d.isDigit := by
  rw [List.eq_of_mem_replicate hd]
  rfl

theorem IsDigits.append_zeros (h : IsDigits ds) (n : Nat) :
    IsDigits (ds ++ List.replicate n '0') := by
  constructor
  · exact List.append_ne_nil_of_left_ne_nil h.1 _
  · intro d hd
    exact (List.mem_append.1 hd).elim (h.2 d) isDigit_of_mem_zeros

theorem IsDigits.zeros_append (h : IsDigits ds) (n : Nat) :
    IsDigits (List.replicate n '0' ++ ds) := by
  constructor
  · exact List.append_ne_nil_of_right_ne_nil _ h.1
  · intro d hd
    exact (List.mem_append.1 hd).elim isDigit_of_mem_zeros (h.2 d)

theorem IsDigits.take (h : IsDigits ds) {n : Nat} (hn : 0 < n) : IsDigits (ds.take n) := by
  constructor
  · rw [ne_eq, List.take_eq_nil_iff]
    exact not_or.2 ⟨Nat.ne_of_gt hn, h.1⟩
  · exact fun d hd ↦ h.2 d (List.mem_of_mem_take hd)

theorem IsDigits.drop (h : IsDigits ds) {n : Nat} (hn : n < ds.length) : IsDigits (ds.drop n) := by
  constructor
  · rw [ne_eq, List.drop_eq_nil_iff]
    exact Nat.not_le_of_lt hn
  · exact fun d hd ↦ h.2 d (List.mem_of_mem_drop hd)

theorem isPlain_positional : IsPlain (positional digits exponent) := by
  have hdigits : IsDigits (Nat.toDigits 10 digits) := isDigits_toDigits digits
  unfold positional
  dsimp only
  split
  case isTrue => exact .whole (hdigits.append_zeros _)
  case isFalse hexponent =>
    have hplaces : 0 < exponent.natAbs := by omega
    have hpadded := hdigits.zeros_append (exponent.natAbs + 1 - (Nat.toDigits 10 digits).length)
    have hlength : exponent.natAbs < (List.replicate
        (exponent.natAbs + 1 - (Nat.toDigits 10 digits).length) '0' ++
          Nat.toDigits 10 digits).length := by
      rw [List.length_append, List.length_replicate]
      omega
    apply IsPlain.point
    · exact hpadded.take (Nat.sub_pos_of_lt hlength)
    · exact hpadded.drop (Nat.sub_lt (Nat.zero_lt_of_lt hlength) hplaces)

theorem isPlain_write (hfinite : isFinite x) (hsign : isNegative x = false) :
    IsPlain (write x).toList := by
  have hkind : x.isNaN = false ∧ x.isInf = false := by simpa [isFinite] using hfinite
  have hwrite : (write x).toList = writeMagnitude x := by
    simp only [write, hkind.1, hkind.2, hsign, Bool.false_eq_true, if_false, String.toList_ofList]
  rw [hwrite, writeMagnitude]
  dsimp only
  split
  case isTrue => exact .whole (isDigits_toDigits 0)
  case isFalse => exact isPlain_positional

end ReleaseAudit.Decimal
