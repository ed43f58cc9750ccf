import ReleaseAudit.Decimal.Positional

/-!
# Whole numbers and floats

Rounding a float to a whole number, the whole number in a float cut to a range, and the remainder of
a division that rounds toward zero. All of them are exact.
-/

namespace ReleaseAudit.Decimal

def isFinite (x : Float) : Bool := !x.isNaN && !x.isInf

/-- The float `num / den` with the given sign; zero has a sign too. -/
def signed (negative : Bool) (num den : Nat) : Float :=
  Float.ofBits (UInt64.ofNat (nearestBits num den + if negative then twoPow 63 else 0))

def ofNat (n : Nat) : Float := signed false n 1

/-- Whole part, remainder and unit of the absolute value of a finite float: it is
`whole + rest / unit`. -/
def split (x : Float) : Nat × Nat × Nat :=
  let (mantissa, exponent) := parts x
  if 0 ≤ exponent then (mantissa * twoPow exponent.toNat, 0, 1)
  else
    let unit := twoPow exponent.natAbs
    (mantissa / unit, mantissa % unit, unit)

def isWhole (x : Float) : Bool := isFinite x && (split x).2.1 == 0

/-- The whole number next to `x` toward zero, or away from zero when `away` holds of the sign, the
remainder and its unit. -/
def roundBy (away : Bool → Nat → Nat → Bool) (x : Float) : Float :=
  if !isFinite x then x
  else
    let (whole, rest, unit) := split x
    let negative := isNegative x
    signed negative (if away negative rest unit then whole + 1 else whole) 1

def floor (x : Float) : Float := roundBy (fun negative rest _ => negative && rest != 0) x

def ceil (x : Float) : Float := roundBy (fun negative rest _ => !negative && rest != 0) x

/-- A half is rounded away from zero. -/
def round (x : Float) : Float := roundBy (fun _ rest unit => unit ≤ 2 * rest) x

/-- The whole part of `x`, cut to the range from `lo` to `hi`; zero when it is not a number. -/
def truncate (lo hi : Int) (x : Float) : Int :=
  if x.isNaN then 0
  else if x.isInf then (if isNegative x then lo else hi)
  else
    let whole : Int := (split x).1
    max lo (min hi (if isNegative x then -whole else whole))

def toInt64 (x : Float) : Int := truncate (-twoPow 63) (twoPow 63 - 1) x

def toUInt64 (x : Float) : Nat := (truncate 0 (twoPow 64 - 1) x).toNat

/-- The remainder of `x / y` with the quotient rounded toward zero; it has the sign of `x`. -/
def remainder (x y : Float) : Float :=
  if x.isNaN || y.isNaN || x.isInf || y == 0 then 0.0 / 0.0
  else if y.isInf then x
  else
    let (m, e) := parts x
    let (n, f) := parts y
    let low := min e f
    let rest := (m * twoPow (e - low).toNat) % (n * twoPow (f - low).toNat)
    let (num, den) := unscale rest 1 (-low)
    signed (isNegative x) num den

end ReleaseAudit.Decimal
