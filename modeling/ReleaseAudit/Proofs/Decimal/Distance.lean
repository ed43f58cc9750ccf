import Mathlib
import ReleaseAudit.Decimal.Whole

/-!
# The distance of two numbers

The differences of two numbers in both directions have the same magnitude, as rounding does not look at
the sign. A finite number has no distance from itself.
-/

namespace ReleaseAudit.Decimal

open Float.Model (Format UnpackedFloat)

open Float.Model.UnpackedFloat (Sign packComponents)

variable {f : Format} {u v : UnpackedFloat} {x y : Float}

/-! ## Magnitudes -/

/-- The bits of a magnitude are those of the number without its sign. -/
theorem abs_unpack_packComponents (s s' : Sign) (e : BitVec f.exponentBits)
    (m : BitVec f.mantissaBitsWithoutImplicit) :
    (UnpackedFloat.unpack f (packComponents f s e m)).abs =
      (UnpackedFloat.unpack f (packComponents f s' e m)).abs := by
  unfold UnpackedFloat.unpack
  simp only [UnpackedFloat.unpackMantissa_packComponents, UnpackedFloat.unpackExponent_packComponents]
  repeat' split
  all_goals rfl

theorem abs_unpack_pack (h : u.abs = v.abs) :
    (UnpackedFloat.unpack f (UnpackedFloat.pack f u)).abs =
      (UnpackedFloat.unpack f (UnpackedFloat.pack f v)).abs := by
  cases u with
  | notANumber =>
    cases v with
    | notANumber => rfl
    | infinity | zero | finite => cases h
  | infinity s =>
    cases v with
    | infinity s' => exact abs_unpack_packComponents s s' _ _
    | notANumber | zero | finite => cases h
  | zero s =>
    cases v with
    | zero s' => exact abs_unpack_packComponents s s' _ _
    | notANumber | infinity | finite => cases h
  | finite s m e hm =>
    cases v with
    | finite s' m' e' hm' =>
      obtain ⟨-, rfl, rfl⟩ := UnpackedFloat.finite.inj h
      unfold UnpackedFloat.pack
      dsimp only
      split
      · exact abs_unpack_packComponents s s' _ _
      · split
        · exact abs_unpack_packComponents s s' _ _
        · exact abs_unpack_packComponents s s' _ _
    | notANumber | infinity | zero => cases h

theorem abs_round (s s' : Sign) (m : Nat) (e : Int) :
    (UnpackedFloat.round f s m e).abs = (UnpackedFloat.round f s' m e).abs := by
  unfold UnpackedFloat.round UnpackedFloat.roundWithAccuracy
  dsimp only
  split
  · rfl
  · rfl

theorem normalize_of_neg {m : Int} (hm : m < 0) (e : Int) (s : Sign) :
    UnpackedFloat.normalize f m e s = UnpackedFloat.round f .negative (-m).toNat e := by
  unfold UnpackedFloat.normalize
  rw [Int.compare_eq_lt.2 hm]

theorem normalize_of_pos {m : Int} (hm : 0 < m) (e : Int) (s : Sign) :
    UnpackedFloat.normalize f m e s = UnpackedFloat.round f .positive m.toNat e := by
  unfold UnpackedFloat.normalize
  rw [Int.compare_eq_gt.2 hm]

theorem abs_normalize_neg (m e : Int) (s : Sign) :
    (UnpackedFloat.normalize f (-m) e s).abs = (UnpackedFloat.normalize f m e s).abs := by
  rcases Int.lt_trichotomy m 0 with hm | rfl | hm
  · rw [normalize_of_neg hm, normalize_of_pos (Int.neg_pos_of_neg hm)]
    exact abs_round _ _ _ _
  · rfl
  · rw [normalize_of_pos hm, normalize_of_neg (Int.neg_neg_of_pos hm), Int.neg_neg]
    exact abs_round _ _ _ _

theorem abs_sub_comm_unpacked (u v : UnpackedFloat) :
    (UnpackedFloat.sub f u v).abs = (UnpackedFloat.sub f v u).abs := by
  have hsign (s s' : Sign) : (s == -s') = (s' == -s) := by
    cases s <;> cases s' <;> rfl
  cases u with
  | notANumber => cases v <;> rfl
  | infinity s =>
    cases v with
    | infinity s' =>
      unfold UnpackedFloat.sub
      dsimp only
      rw [hsign s s']
      split <;> rfl
    | notANumber | zero | finite => rfl
  | zero s =>
    cases v with
    | zero s' =>
      unfold UnpackedFloat.sub
      dsimp only
      rw [hsign s s']
      split <;> rfl
    | notANumber | infinity | finite => rfl
  | finite s m e hm =>
    cases v with
    | finite s' m' e' hm' =>
      unfold UnpackedFloat.sub
      dsimp only
      rw [Int.min_comm e' e, ← Int.neg_sub, abs_normalize_neg]
    | notANumber | infinity | zero => rfl

/-! ## Floats -/

theorem abs_sub_comm (x y : Float) : (x - y).abs = (y - x).abs := by
  have h : (UnpackedFloat.unpack .binary64 (UnpackedFloat.pack .binary64
        (UnpackedFloat.sub .binary64 x.toModel.unpack y.toModel.unpack))).abs =
      (UnpackedFloat.unpack .binary64 (UnpackedFloat.pack .binary64
        (UnpackedFloat.sub .binary64 y.toModel.unpack x.toModel.unpack))).abs :=
    abs_unpack_pack (abs_sub_comm_unpacked _ _)
  exact congrArg (fun u ↦ Float.ofModel (Float.Model.pack u)) h

theorem sub_self_unpacked (h : u.isFinite) : UnpackedFloat.sub f u u = .zero .positive := by
  cases u with
  | notANumber | infinity => cases h
  | zero s => cases s <;> rfl
  | finite s m e hm =>
    unfold UnpackedFloat.sub
    dsimp only
    rw [Int.sub_self]
    rfl

theorem isFinite_unpack (h : isFinite x) : x.toModel.unpack.isFinite := by
  have hkind : x.isNaN = false ∧ x.isInf = false := by simpa [isFinite] using h
  change x.toModel.unpack.isNaN = false ∧ x.toModel.unpack.isInf = false at hkind
  cases hx : x.toModel.unpack with
  | notANumber =>
    rw [hx] at hkind
    cases hkind.1
  | infinity =>
    rw [hx] at hkind
    cases hkind.2
  | zero | finite => rfl

theorem sub_self_of_isFinite (h : isFinite x) : x - x = 0.0 := by
  have hzero : UnpackedFloat.sub .binary64 x.toModel.unpack x.toModel.unpack = .zero .positive :=
    sub_self_unpacked (isFinite_unpack h)
  calc
    x - x = Float.ofModel (Float.Model.pack (.zero .positive)) :=
      congrArg (fun u ↦ Float.ofModel (Float.Model.pack u)) hzero
    _ = 0.0 := by decide +kernel

end ReleaseAudit.Decimal
