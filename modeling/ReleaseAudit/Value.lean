import ReleaseAudit.Decimal.Whole
import ReleaseAudit.Dict
import ReleaseAudit.Text.Search

/-!
# Values

The values that check expressions compute with. `display` is the text of a value inside other texts;
a value is truthy unless it is the zero of its kind.
-/

namespace ReleaseAudit

/-- Functions that the surroundings of an expression provide. -/
inductive HostFunction where
  | println
  | split
  /-- Whether a commit message starts with the given text. -/
  | validCommitMsg (start : String)
  /-- A function of the program that embeds the checks; its code is found by `key`. -/
  | foreign (name : String) (key : Nat)
deriving DecidableEq, Repr

def HostFunction.name : HostFunction → String
  | println => "println"
  | split => "split"
  | validCommitMsg _ => "validCommitMsg"
  | foreign name _ => name

inductive Value where
  | null
  | bool (b : Bool)
  | number (x : Float)
  | string (s : String)
  | list (items : List Value)
  | map (entries : List (String × Value))
  | function (f : HostFunction)
deriving Inhabited, Repr

/-- The kinds of values. -/
inductive Kind where
  | null | bool | number | string | list | map | function
deriving DecidableEq, Repr

def Kind.name : Kind → String
  | null => "null"
  | bool => "bool"
  | number => "number"
  | string => "string"
  | list => "list"
  | map => "map"
  | function => "function"

namespace Value

def kind : Value → Kind
  | null => .null
  | bool _ => .bool
  | number _ => .number
  | string _ => .string
  | list _ => .list
  | map _ => .map
  | function _ => .function

/-- No function is zero. -/
def isZero : Value → Bool
  | null => true
  | bool b => !b
  | number x => x == 0
  | string s => s.isEmpty
  | list items => items.isEmpty
  | map entries => entries.isEmpty
  | function _ => false

def isTruthy (v : Value) : Bool := !v.isZero

/-- A whole number below 10 ^ 15 is written as an integer, so its zero has no sign. -/
def displayNumber (x : Float) : String :=
  if Decimal.isWhole x && x.abs < Decimal.ofNat (Decimal.tenPow 15) then toString (Decimal.toInt64 x)
  else Decimal.write x

mutual

def display : Value → String
  | null => "null"
  | bool b => if b then "true" else "false"
  | number x => displayNumber x
  | string s => s
  | list items => "[" ++ Text.intercalate ", " (displayItems items) ++ "]"
  | map entries => "\x7b" ++ Text.intercalate ", " (displayEntries entries) ++ "\x7d"
  | function f => "<function " ++ f.name ++ ">"

def displayItems : List Value → List String
  | [] => []
  | v :: vs => display v :: displayItems vs

def displayEntries : List (String × Value) → List String
  | [] => []
  | (k, v) :: rest => (k ++ ": " ++ display v) :: displayEntries rest

end

def ofStrings (texts : List String) : Value := list (texts.map string)

/-- The keys of every map are in order, each once. -/
inductive Ordered : Value → Prop
  | null : Ordered null
  | bool (b : Bool) : Ordered (bool b)
  | number (x : Float) : Ordered (number x)
  | string (s : String) : Ordered (string s)
  | list {items : List Value} : (∀ v ∈ items, Ordered v) → Ordered (list items)
  | map {entries : Dict Value} : entries.Sorted → (∀ entry ∈ entries, Ordered entry.2) →
      Ordered (map entries)
  | function (f : HostFunction) : Ordered (function f)

end Value

/-- A value that comes with the order of its maps. -/
structure OrderedValue where
  value : Value
  ordered : value.Ordered

end ReleaseAudit
