import ReleaseAudit.Decimal.Binary64

/-!
# Reading numerals

A numeral has an optional sign, digits with at most one point and at least one digit, and an optional
exponent; `inf`, `infinity` and `nan` are numerals in any letter case.
-/

namespace ReleaseAudit.Decimal

def digitValue (c : Char) : Nat := c.toNat - '0'.toNat

def readDigits (cs : List Char) : Nat := cs.foldl (fun n c => 10 * n + digitValue c) 0

def readSign : List Char → Bool × List Char
  | '-' :: cs => (true, cs)
  | '+' :: cs => (false, cs)
  | cs => (false, cs)

/-- The exponent that `cs` spells after the digits; none when there is no digit or something else. -/
def readExponent? : List Char → Option Int
  | [] => some 0
  | c :: cs =>
    if c == 'e' || c == 'E' then
      let (negative, digits) := readSign cs
      if digits.isEmpty || !digits.all Char.isDigit then none
      else some (if negative then -(readDigits digits : Int) else readDigits digits)
    else none

/-- Digits and exponent of an unsigned numeral. -/
def readUnsigned? (cs : List Char) : Option (Nat × Int) := do
  let whole := cs.takeWhile Char.isDigit
  let (fraction, rest) :=
    match cs.dropWhile Char.isDigit with
    | '.' :: rest => (rest.takeWhile Char.isDigit, rest.dropWhile Char.isDigit)
    | rest => ([], rest)
  if whole.isEmpty && fraction.isEmpty then none
  let exponent ← readExponent? rest
  some (readDigits (whole ++ fraction), exponent - fraction.length)

def namedNumeral? (cs : List Char) : Option Float :=
  let name := String.ofList (cs.map Char.toLower)
  if name == "inf" || name == "infinity" then some (1.0 / 0.0)
  else if name == "nan" then some (0.0 / 0.0)
  else none

def read? (cs : List Char) : Option Float :=
  let (negative, body) := readSign cs
  let magnitude :=
    match readUnsigned? body with
    | some (digits, exponent) => some (nearest digits exponent)
    | none => namedNumeral? body
  magnitude.map fun x => if negative then -x else x

end ReleaseAudit.Decimal
