import ReleaseAudit.Decimal.Power

/-!
# Decimals and 64-bit floats

A finite positive float is `mantissa * 2 ^ exponent`. A decimal is read as the nearest float, an even
mantissa deciding between two that are equally near. A float is written with the fewest digits that
read back: on the coarsest grid of multiples of a power of ten that meets the interval of reals
rounding to it, the point nearest to it.
-/

namespace ReleaseAudit.Decimal

/-- `num / den` rounded to a whole number, a half going to the even neighbour. -/
def roundHalfEven (num den : Nat) : Nat :=
  let whole := num / den
  let rest := 2 * (num % den)
  if rest < den || (rest == den && whole % 2 == 0) then whole else whole + 1

/-- Numerator and denominator of `num / den * 2 ^ (-q)`. -/
def unscale (num den : Nat) (q : Int) : Nat × Nat :=
  if q < 0 then (num * twoPow q.natAbs, den) else (num, den * twoPow q.natAbs)

/-- The exponent at which `num / den` has a mantissa of 53 bits, or the least one there is. -/
def mantissaExponent (num den : Nat) : Int :=
  let q := max ((num.log2 : Int) - den.log2 - 53) (-1074)
  let (n, d) := unscale num den q
  if n / d < twoPow 53 then q else q + 1

def infinityBits : Nat := 0x7ff0000000000000

/-- The bits of the float nearest to `num / den`. -/
def nearestBits (num den : Nat) : Nat :=
  if num == 0 then 0
  else
    let q := mantissaExponent num den
    let (n, d) := unscale num den q
    let m := roundHalfEven n d
    if m < twoPow 52 then m
    else min (m - twoPow 52 + (q + 1075).toNat * twoPow 52) infinityBits

/-- The number of decimal digits of `n`. -/
def digitCount (n : Nat) : Nat := (Nat.toDigits 10 n).length

/-- The float nearest to `digits * 10 ^ exponent`. -/
def nearest (digits : Nat) (exponent : Int) : Float :=
  let magnitude := exponent + digitCount digits
  let bits :=
    if digits == 0 || magnitude < -330 then 0
    else if 310 < magnitude then infinityBits
    else if exponent < 0 then nearestBits digits (tenPow exponent.natAbs)
    else nearestBits (digits * tenPow exponent.natAbs) 1
  Float.ofBits (UInt64.ofNat bits)

/-- Mantissa and exponent of the absolute value of a finite float. -/
def parts (x : Float) : Nat × Int :=
  let bits := x.toBits.toNat % twoPow 63
  let fraction : Nat := bits % twoPow 52
  let biased : Nat := bits / twoPow 52
  if biased == 0 then (fraction, -1074) else (fraction + twoPow 52, (biased : Int) - 1075)

/-- The reals that round to `mantissa * 2 ^ exponent`, in quarters of its last place. -/
structure RoundingInterval where
  low : Nat
  centre : Nat
  high : Nat
  closed : Bool
  exponent : Int

/-- Below a power of two the floats lie twice as close. -/
def roundingInterval (mantissa : Nat) (exponent : Int) : RoundingInterval :=
  let below := if mantissa == twoPow 52 && exponent != -1074 then 1 else 2
  { low := 4 * mantissa - below
    centre := 4 * mantissa
    high := 4 * mantissa + 2
    closed := mantissa % 2 == 0
    exponent := exponent - 2 }

/-- The common measure of the quarters of an interval and of a grid of multiples of `10 ^ grid`. -/
def measures (exponent grid : Int) : Nat × Nat :=
  (twoPow exponent.toNat * tenPow (-grid).toNat, tenPow grid.toNat * twoPow (-exponent).toNat)

/-- The multiple of `10 ^ grid` inside the interval that is nearest to its centre. -/
def gridPoint? (i : RoundingInterval) (grid : Int) : Option Nat :=
  let (unit, step) := measures i.exponent grid
  let inside (n : Nat) : Bool :=
    if i.closed then i.low * unit ≤ n * step && n * step ≤ i.high * unit
    else i.low * unit < n * step && n * step < i.high * unit
  let below := i.centre * unit / step
  match inside below, inside (below + 1) with
  | true, true =>
    let fromBelow := i.centre * unit - below * step
    some (if 2 * fromBelow < step then below else below + 1)
  | true, false => some below
  | false, true => some (below + 1)
  | false, false => none

/-- The fewest digits that read back as `mantissa * 2 ^ exponent`, and their exponent. -/
def shortest (mantissa : Nat) (exponent : Int) : Nat × Int :=
  let top := ((mantissa.log2 : Int) + exponent + 1) * 30103 / 100000 + 1
  let interval := roundingInterval mantissa exponent
  let grids := (List.range 20).map fun (i : Nat) => top - i
  (grids.findSome? fun grid => (gridPoint? interval grid).map (·, grid)).getD (0, 0)

end ReleaseAudit.Decimal
