import ReleaseAudit.Decimal.Binary64

/-!
# Writing numbers

A float is written with the fewest digits that read back, without an exponent and without a fraction
when it is whole.
-/

namespace ReleaseAudit.Decimal

/-- `digits * 10 ^ exponent` in positional notation. -/
def positional (digits : Nat) (exponent : Int) : List Char :=
  let ds := Nat.toDigits 10 digits
  if 0 ≤ exponent then ds ++ List.replicate exponent.toNat '0'
  else
    let places := exponent.natAbs
    let padded := List.replicate (places + 1 - ds.length) '0' ++ ds
    padded.take (padded.length - places) ++ '.' :: padded.drop (padded.length - places)

def isNegative (x : Float) : Bool := twoPow 63 ≤ x.toBits.toNat

def writeMagnitude (x : Float) : List Char :=
  let (mantissa, exponent) := parts x
  if mantissa == 0 then ['0']
  else
    let (digits, grid) := shortest mantissa exponent
    positional digits grid

def write (x : Float) : String :=
  if x.isNaN then "NaN"
  else
    let magnitude := if x.isInf then "inf".toList else writeMagnitude x
    String.ofList (if isNegative x then '-' :: magnitude else magnitude)

end ReleaseAudit.Decimal
