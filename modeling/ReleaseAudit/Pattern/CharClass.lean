import ReleaseAudit.Pattern.CaseFold
import ReleaseAudit.Pattern.Category
import ReleaseAudit.Pattern.Property
import ReleaseAudit.Pattern.Script
import ReleaseAudit.Text.Alphabet
import ReleaseAudit.Text.Blank

/-!
# Character classes

A class is built from ranges by set operations and by closing it under letter case. `named?` finds
the class of a property, a general category or a script by its name.
-/

namespace ReleaseAudit

inductive CharClass where
  | ranges (ranges : Text.CharRanges)
  | steps (steps : Pattern.Steps)
  | union (a b : CharClass)
  | inter (a b : CharClass)
  | diff (a b : CharClass)
  | symmDiff (a b : CharClass)
  | complement (a : CharClass)
  /-- The characters that differ in letter case only from a character of the class. -/
  | folded (a : CharClass)
deriving Repr, Inhabited

namespace CharClass

def contains : CharClass → Char → Bool
  | ranges r, c => r.contains c
  | steps s, c => s.holds c.toNat
  | union a b, c => a.contains c || b.contains c
  | inter a b, c => a.contains c && b.contains c
  | diff a b, c => a.contains c && !b.contains c
  | symmDiff a b, c => a.contains c != b.contains c
  | complement a, c => !a.contains c
  | folded a, c => (Pattern.orbit c).any (a.contains ·)

def empty : CharClass := ranges []

def between (lo hi : Char) : CharClass := ranges [(lo.toNat, hi.toNat)]

def single (c : Char) : CharClass := between c c

def ascii : CharClass := ranges [(0, 0x7f)]

def any : CharClass := ranges [(0, 0x10ffff)]

def unions : List CharClass → CharClass
  | [] => empty
  | [a] => a
  | a :: as => union a (unions as)

def ofSteps (runs : List Pattern.Steps) : CharClass := unions (runs.map steps)

def mark : CharClass :=
  ofSteps [Pattern.Category.nonspacingMark, Pattern.Category.spacingMark,
    Pattern.Category.enclosingMark]

def digit (unicode : Bool) : CharClass :=
  if unicode then steps Pattern.Category.decimalNumber else between '0' '9'

def blank (unicode : Bool) : CharClass :=
  ranges (if unicode then Pattern.Property.whiteSpace else [(9, 13), (32, 32)])

/-- Letters, marks, digits, connecting punctuation and the two joiners. -/
def word (unicode : Bool) : CharClass :=
  if unicode then
    unions [ranges Text.alphabeticRanges, mark, steps Pattern.Category.decimalNumber,
      steps Pattern.Category.connectorPunctuation, ranges Pattern.Property.joinControl]
  else ranges [(48, 57), (65, 90), (95, 95), (97, 122)]

/-- The classes that are written `[:name:]`. -/
def posix? : String → Option Text.CharRanges
  | "alnum" => some [(48, 57), (65, 90), (97, 122)]
  | "alpha" => some [(65, 90), (97, 122)]
  | "ascii" => some [(0, 127)]
  | "blank" => some [(9, 9), (32, 32)]
  | "cntrl" => some [(0, 31), (127, 127)]
  | "digit" => some [(48, 57)]
  | "graph" => some [(33, 126)]
  | "lower" => some [(97, 122)]
  | "print" => some [(32, 126)]
  | "punct" => some [(33, 47), (58, 64), (91, 96), (123, 126)]
  | "space" => some [(9, 13), (32, 32)]
  | "upper" => some [(65, 90)]
  | "word" => some [(48, 57), (65, 90), (95, 95), (97, 122)]
  | "xdigit" => some [(48, 57), (65, 70), (97, 102)]
  | _ => none

/-! ## Names of properties -/

/-- Names are compared without blanks, hyphens, underscores, letter case and a leading `is`. -/
def looseName (name : List Char) : String :=
  let body :=
    match name with
    | i :: s :: rest => if i.toLower == 'i' && s.toLower == 's' then rest else name
    | _ => name
  let kept := (body.filter fun c => c.toNat < 128 && c != ' ' && c != '_' && c != '-').map Char.toLower
  String.ofList (if body.length < name.length && kept == ['c'] then ['i', 's', 'c'] else kept)

def findNamed {α : Type} (table : List (List String × α)) (name : String) : Option α :=
  (table.find? fun (names, _) => names.contains name).map (·.2)

def category? (name : String) : Option CharClass :=
  let unassigned := complement (union (ofSteps Pattern.Category.assigned) empty)
  if name == "any" then some any
  else if name == "assigned" then some (ofSteps Pattern.Category.assigned)
  else if name == "ascii" then some ascii
  else if name == "cn" || name == "unassigned" then some unassigned
  else if name == "c" || name == "other" then
    some (unions [steps Pattern.Category.control, steps Pattern.Category.format,
      steps Pattern.Category.privateUse, unassigned])
  else (findNamed Pattern.Category.named name).map ofSteps

def script? (name : String) : Option CharClass := (findNamed Pattern.Script.named name).map ranges

def identifierStart : CharClass :=
  unions [ofSteps [Pattern.Category.uppercaseLetter, Pattern.Category.lowercaseLetter,
      Pattern.Category.titlecaseLetter, Pattern.Category.modifierLetter,
      Pattern.Category.otherLetter, Pattern.Category.letterNumber],
    ranges [(0x1885, 0x1886), (0x2118, 0x2118), (0x212e, 0x212e), (0x309b, 0x309c)]]

def identifierPart : CharClass :=
  unions [identifierStart, mark, ofSteps [Pattern.Category.decimalNumber,
      Pattern.Category.connectorPunctuation],
    ranges [(0xb7, 0xb7), (0x387, 0x387), (0x1369, 0x1371), (0x19da, 0x19da)]]

/-- The properties that follow from categories, and those with their own table. -/
def property? (name : String) : Option CharClass :=
  if name == "alpha" || name == "alphabetic" then some (ranges Text.alphabeticRanges)
  else if name == "lower" || name == "lowercase" then
    some (union (steps Pattern.Category.lowercaseLetter) (ranges Pattern.Property.otherLowercase))
  else if name == "upper" || name == "uppercase" then
    some (union (steps Pattern.Category.uppercaseLetter) (ranges Pattern.Property.otherUppercase))
  else if name == "cased" then some (ranges Text.casedRanges)
  else if name == "ci" || name == "caseignorable" then some (ranges Text.caseIgnorableRanges)
  else if name == "ids" || name == "idstart" then
    some (diff identifierStart (ranges [(0x2e2f, 0x2e2f)]))
  else if name == "idc" || name == "idcontinue" then
    some (diff identifierPart (ranges [(0x2e2f, 0x2e2f)]))
  else if name == "xids" || name == "xidstart" then
    some (diff identifierStart (ranges [(0x37a, 0x37a), (0xe33, 0xe33), (0xeb3, 0xeb3),
      (0x2e2f, 0x2e2f), (0x309b, 0x309c), (0xfc5e, 0xfc63), (0xfdfa, 0xfdfb), (0xfe70, 0xfe70),
      (0xfe72, 0xfe72), (0xfe74, 0xfe74), (0xfe76, 0xfe76), (0xfe78, 0xfe78), (0xfe7a, 0xfe7a),
      (0xfe7c, 0xfe7c), (0xfe7e, 0xfe7e), (0xff9e, 0xff9f)]))
  else if name == "xidc" || name == "xidcontinue" then
    some (diff identifierPart (ranges [(0x37a, 0x37a), (0x2e2f, 0x2e2f), (0x309b, 0x309c),
      (0xfc5e, 0xfc63), (0xfdfa, 0xfdfb), (0xfe70, 0xfe70), (0xfe72, 0xfe72), (0xfe74, 0xfe74),
      (0xfe76, 0xfe76), (0xfe78, 0xfe78), (0xfe7a, 0xfe7a), (0xfe7c, 0xfe7c), (0xfe7e, 0xfe7e)]))
  else (findNamed Pattern.Property.named name).map ranges

/-- `cf`, `sc` and `lc` are categories although properties have these names too. -/
def named? (name : List Char) : Option CharClass :=
  let name := looseName name
  let property := if name == "cf" || name == "sc" || name == "lc" then none else property? name
  property <|> category? name <|> script? name

/-- The class of the characters whose property `name` has the value `value`. -/
def valued? (name value : List Char) : Option CharClass :=
  let name := looseName name
  let value := looseName value
  if name == "gc" || name == "generalcategory" then category? value
  else if name == "sc" || name == "script" then script? value
  else none

end CharClass

end ReleaseAudit
