import ReleaseAudit.Decimal.Numeral
import ReleaseAudit.Decimal.Whole
import ReleaseAudit.Text.Cut

/-!
# Numbers in JSON

A number is read into a 64-bit unsigned significand as long as its digits fit and a power of ten. The
significand is converted to a float and then multiplied with or divided by the power, which rounds
twice: the result is not always the float nearest to the decimal.
-/

namespace ReleaseAudit.Json

open Text (Cut)

def wordLimit : Nat := Decimal.twoPow 64

/-- The significand so far, the power of ten it is multiplied with, and whether further digits still
count. -/
structure Significand where
  value : Nat
  exponent : Int
  full : Bool
deriving Repr

namespace Significand

/-- A digit before the point; from the first one that does not fit on digits only scale. -/
def pushWhole (s : Significand) (d : Char) : Significand :=
  let value := 10 * s.value + Decimal.digitValue d
  if s.full || wordLimit ≤ value then { s with exponent := s.exponent + 1, full := true }
  else { s with value }

/-- A digit behind the point; from the first one that does not fit on digits are dropped. -/
def pushFraction (s : Significand) (d : Char) : Significand :=
  let value := 10 * s.value + Decimal.digitValue d
  if s.full || wordLimit ≤ value then { s with full := true }
  else { s with value, exponent := s.exponent - 1 }

end Significand

def powerOfTen (n : Nat) : Float := Decimal.nearest 1 n

/-- Divides `x` by ten to the power `n`, in steps of at most 308. -/
def divideByPower (x : Float) (n : Nat) : Float :=
  if n ≤ 308 || x == 0 then x / powerOfTen (min n 308)
  else divideByPower (x / powerOfTen 308) (n - 308)
termination_by n
decreasing_by simp at *; omega

/-- The float of a significand and a power of ten; none when it is too large. -/
def scaled? (significand : Nat) (exponent : Int) : Option Float :=
  let x := Decimal.ofNat significand
  if 0 ≤ exponent then
    if 308 < exponent then (if significand == 0 then some x else none)
    else
      let y := x * powerOfTen exponent.toNat
      if y.isInf then none else some y
  else if significand == 0 then some x
  else some (divideByPower x exponent.natAbs)

/-- An exponent beyond this is not added up. -/
def exponentLimit : Nat := Decimal.twoPow 31

/-- The exponent behind its letter: its sign and its digits. -/
def readExponent? (cs : List Char) : Option (Cut cs.length (Bool × Nat)) :=
  let tail : Cut cs.length Bool :=
    match cs with
    | '+' :: rest => (Cut.here false rest).past
    | '-' :: rest => (Cut.here true rest).past
    | cs => .here false cs
  let digits := Cut.span Char.isDigit tail.rest
  if digits.value.isEmpty then none
  else some (tail.andThen (digits.map fun ds => (tail.value, Decimal.readDigits ds)))

/-- The magnitude of a number without its sign. A number of more than one digit does not begin with
zero, and at least one digit follows a point. -/
def readMagnitude? (cs : List Char) : Option (Cut cs.length Float) := do
  let whole := Cut.span Char.isDigit cs
  if whole.value.isEmpty || (whole.value.head? == some '0' && 1 < whole.value.length) then none
  let s := whole.value.foldl Significand.pushWhole ⟨0, 0, false⟩
  let fraction : Cut cs.length (Option (List Char)) :=
    match hc : whole.rest with
    | '.' :: rest =>
      ((Cut.span Char.isDigit rest).map some).widen (by
        have := whole.le; rw [hc, List.length_cons] at this; omega)
    | _ => whole.map fun _ => none
  if fraction.value == some [] then none
  let s := (fraction.value.getD []).foldl Significand.pushFraction { s with full := false }
  match hc : fraction.rest with
  | e :: rest =>
    if e == 'e' || e == 'E' then
      let exponent ← readExponent? rest
      let (negative, n) := exponent.value
      let h : rest.length ≤ cs.length := by
        have := fraction.le; rw [hc, List.length_cons] at this; omega
      if exponentLimit ≤ n then
        if s.value == 0 || negative then some ((exponent.map fun _ => (0.0 : Float)).widen h) else none
      else
        let x ← scaled? s.value (if negative then s.exponent - n else s.exponent + n)
        some ((exponent.map fun _ => x).widen h)
    else
      let x ← scaled? s.value s.exponent
      some (fraction.map fun _ => x)
  | [] =>
    let x ← scaled? s.value s.exponent
    some (fraction.map fun _ => x)

end ReleaseAudit.Json
