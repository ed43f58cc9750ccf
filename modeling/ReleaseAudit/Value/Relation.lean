import ReleaseAudit.Fault

/-!
# Equality, order and search

Numbers are equal when they are less than one machine epsilon apart. Numbers and strings are ordered,
each kind by itself. Lists are searched for an equal item, maps for a key and strings for a part.
-/

namespace ReleaseAudit

namespace Value

/-- The distance of one from the next float, 2 ^ -52. -/
def epsilon : Float := Float.ofBits 0x3cb0000000000000

mutual

def equals : Value → Value → Bool
  | null, null => true
  | bool a, bool b => a == b
  | number x, number y => (x - y).abs < epsilon
  | string s, string t => s == t
  | list vs, list ws => equalItems vs ws
  | map d, map e => d.length == e.length && equalEntries d e
  | _, _ => false

def equalItems : List Value → List Value → Bool
  | [], [] => true
  | v :: vs, w :: ws => equals v w && equalItems vs ws
  | _, _ => false

/-- Whether every entry of the first map has an equal one in the second. -/
def equalEntries : List (String × Value) → List (String × Value) → Bool
  | [], _ => true
  | (k, v) :: rest, e =>
    (match Dict.get? e k with
      | some w => equals v w
      | none => false) && equalEntries rest e

end

def compareNumbers (x y : Float) : Except Fault Ordering :=
  if x < y then .ok .lt
  else if x == y then .ok .eq
  else if y < x then .ok .gt
  else .error .comparesNaN

def compare : Value → Value → Except Fault Ordering
  | number x, number y => compareNumbers x y
  | string s, string t => .ok (Ord.compare s t)
  | v, w => .error (.incomparable v.kind w.kind)

/-- Whether `needle` occurs in a value. -/
def holds (haystack needle : Value) : Except Fault Bool :=
  match haystack, needle with
  | list items, _ => .ok (items.any (equals · needle))
  | map entries, string key => .ok (Dict.contains entries key)
  | string s, string part => .ok (Text.isInfix part.toList s.toList)
  | null, _ => .ok false
  | _, _ => .error (.notSearchable needle.kind haystack.kind)

/-- Whether `v` comes before `w`; values that cannot be compared do not. -/
def precedes (v w : Value) : Bool :=
  match compare v w with
  | .ok .lt => true
  | _ => false

/-- Puts `v` into a list that is sorted with its greatest item first, in front of the first item that
it does not precede. -/
def place (v : Value) : List Value → List Value
  | [] => [v]
  | w :: ws => if precedes v w then w :: place v ws else v :: w :: ws

/-- Sorts by insertion; items that do not precede each other keep their order. -/
def sorted (items : List Value) : List Value := (items.foldl (fun ws v => place v ws) []).reverse

end Value

end ReleaseAudit
