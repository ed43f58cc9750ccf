import ReleaseAudit.Decimal.Whole
import ReleaseAudit.Text.Search
import ReleaseAudit.Yaml.Document

/-!
# Decoding documents

A document is read by the shape that is expected of it. Where a text is expected every scalar is one;
where anything may stand, plain scalars are null, booleans, numbers or texts by the way they are
written. Aliases are followed wherever something is read.
-/

namespace ReleaseAudit.Yaml

/-! ## Plain scalars -/

def isNullWord (text : String) : Bool :=
  text == "null" || text == "Null" || text == "NULL" || text == "~"

def bool? (text : String) : Option Bool :=
  if text == "true" || text == "True" || text == "TRUE" then some true
  else if text == "false" || text == "False" || text == "FALSE" then some false
  else none

def digitOf? (radix : Nat) (c : Char) : Option Nat := (Json.hexDigit? c).filter (· < radix)

/-- The number that at least one digit spells. -/
def digits? (radix : Nat) (cs : List Char) : Option Nat :=
  if cs.isEmpty then none else cs.foldlM (fun n c => (digitOf? radix c).map (radix * n + ·)) 0

/-- Digits that begin with a needless zero are a text. -/
def isPadded (digits : List Char) : Bool :=
  1 < digits.length && digits.head? == some '0' && digits.all Char.isDigit

def magnitude? (cs : List Char) : Option Nat :=
  match cs with
  | '0' :: 'x' :: rest => digits? 16 rest
  | '0' :: 'o' :: rest => digits? 8 rest
  | '0' :: 'b' :: rest => digits? 2 rest
  | cs => if isPadded cs then none else digits? 10 cs

/-- The sign and the magnitude of a whole number; true for a minus. -/
def whole? (text : String) : Option (Bool × Nat) :=
  match text.toList with
  | '+' :: rest => (magnitude? rest).map (false, ·)
  | '-' :: rest => (magnitude? rest).map (true, ·)
  | cs => (magnitude? cs).map (false, ·)

/-- What a whole number is: one that fits into 64 bits is a number, one that fits only into 128 bits is
refused, and a larger one is none. -/
inductive Whole where
  | fits (x : Float)
  | tooLarge
  | none

def Whole.ofText (text : String) : Whole :=
  match whole? text with
  | some (false, n) =>
    if n < Decimal.twoPow 64 then .fits (Decimal.ofNat n) else if n < Decimal.twoPow 128 then .tooLarge else .none
  | some (true, n) =>
    if n == 0 then .fits 0
    else if n ≤ Decimal.twoPow 63 then .fits (-Decimal.ofNat n)
    else if n ≤ Decimal.twoPow 127 then .tooLarge else .none
  | Option.none => .none

/-- A number with a point or an exponent. Infinities and not-a-number have names of their own, and no
counterpart in JSON. -/
def real? (text : String) : Option Json :=
  let infinite := [".inf", ".Inf", ".INF"]
  if (infinite ++ infinite.map ("+" ++ ·) ++ infinite.map ("-" ++ ·) ++
      [".nan", ".NaN", ".NAN"]).contains text then some .null
  else ((Decimal.read? text.toList).filter Decimal.isFinite).map .number

def dropSign : List Char → List Char
  | '+' :: rest | '-' :: rest => rest
  | cs => cs

/-- What a plain scalar is; none for a whole number that is refused. -/
def plain? (text : String) : Option Json :=
  if text.isEmpty || isNullWord text then some .null
  else
    match bool? text, Whole.ofText text with
    | some b, _ => some (.bool b)
    | none, .fits x => some (.number x)
    | none, .tooLarge => none
    | none, .none =>
      if isPadded (dropSign text.toList) then some (.string text)
      else some ((real? text).getD (.string text))

def isLocalTag (tag : String) : Bool := tag.toList.head? == some '!'

/-- What a scalar is where anything may stand. A tag decides what the text has to be. -/
def scalar? (tag : Option String) (isPlain : Bool) (text : String) : Option Json :=
  match tag with
  | none => if isPlain then plain? text else some (.string text)
  | some tag =>
    if isLocalTag tag then none
    else if tag == "tag:yaml.org,2002:bool" then (bool? text).map .bool
    else if tag == "tag:yaml.org,2002:int" then
      match Whole.ofText text with
      | .fits x => some (.number x)
      | _ => none
    else if tag == nullTag then if isNullWord text then some .null else none
    else if tag == "tag:yaml.org,2002:float" then real? text
    else some (.string text)
where
  nullTag := "tag:yaml.org,2002:null"

/-! ## Shapes -/

/-- Reading carries the number of aliases that may still be followed. -/
abbrev Read := StateT Nat Option

/-- A way to read a node of a document. -/
abbrev Shape (α : Type) := Document → Node Nat → Read α

namespace Shape

variable {α : Type}

/-- The node itself, or the one that an alias means. -/
def follow (d : Document) : Node Nat → Read (Node Nat)
  | .reference number => do
    match ← get with
    | 0 => failure
    | n + 1 =>
      set n
      match d.target? number with
      | some node => return node
      | none => failure
  | node => return node

def isEmptyPlain : Node Nat → Bool
  | .scalar _ true text => text.isEmpty
  | _ => false

def text : Shape String := fun d node => do
  match ← follow d node with
  | .scalar _ _ text => return text
  | _ => failure

/-- A node that may be null. -/
def option (shape : Shape α) : Shape (Option α) := fun d node => do
  match ← follow d node with
  | .scalar p true text =>
    if p.tag == some scalar?.nullTag then
      if isNullWord text then return none else failure
    else if p.tag.isNone && (text.isEmpty || isNullWord text) then return none
    else return some (← shape d (.scalar p true text))
  | node => return some (← shape d node)

/-- A sequence; an empty plain scalar is an empty one. -/
def sequence (shape : Shape α) : Shape (List α) := fun d node => do
  match ← follow d node with
  | .sequence _ items => items.mapM (shape d)
  | node => if isEmptyPlain node then return [] else failure

/-- The entries of a mapping; an empty plain scalar is an empty one. -/
def entries : Shape (List (Node Nat × Node Nat)) := fun d node => do
  match ← follow d node with
  | .mapping _ entries => return entries
  | node => if isEmptyPlain node then return [] else failure

/-- The entries of a mapping whose keys are scalars. -/
def fields : Shape (List (String × Node Nat)) := fun d node => do
  (← entries d node).mapM fun (k, v) => do return (← text d k, v)

/-- The value of a key that stands at most once. -/
def member (d : Document) (fields : List (String × Node Nat)) (key : String) (shape : Shape α)
    (default : α) : Read α :=
  match fields.filter (·.1 == key) with
  | [] => return default
  | [(_, node)] => shape d node
  | _ => failure

/-- Anything, with at most `depth` levels of collections. Where `strict` holds the keys of mappings are
texts also where anything may stand; otherwise every scalar is a key. Of two entries with the same key
the later one counts. -/
def json (strict : Bool) (depth : Nat) : Shape Json := fun d node => do
  match ← follow d node with
  | .reference _ => failure
  | .scalar p isPlain text =>
    match scalar? p.tag isPlain text with
    | some j => return j
    | none => failure
  | .sequence p items =>
    match depth with
    | 0 => failure
    | depth + 1 =>
      if p.tag.any isLocalTag then failure
      return .array (← items.mapM (json strict depth d))
  | .mapping p entries =>
    match depth with
    | 0 => failure
    | depth + 1 =>
      if p.tag.any isLocalTag then failure
      let entries ← entries.mapM fun (k, v) => do
        let key ←
          if strict then
            match ← json strict depth d k with
            | .string key => pure key
            | _ => failure
          else text d k
        return (key, ← json strict depth d v)
      return .object (Dict.ofList entries)

/-- The collections of a document are nested at most this deep. -/
def maxDepth : Nat := 128

/-- Each event of a document may be reached by this many aliases on average. -/
def aliasesPerEvent : Nat := 100

def run (read : Read α) (d : Document) : Except Malformed α :=
  match StateT.run read (aliasesPerEvent * d.events) with
  | some (a, _) => .ok a
  | none => .error ⟨.yaml⟩

/-- Reads the document of a text; `none` is what a text without a document is read as. -/
def parse (shape : Shape α) (none : Except Malformed α) (text : String) : Except Malformed α :=
  match Document.parse? text with
  | Option.none => .error ⟨.yaml⟩
  | some d =>
    match d.root with
    | Option.none => none
    | some node => run (shape d node) d

end Shape

/-- Reads a document that may hold anything. -/
def parseJson (text : String) : Except Malformed Json :=
  (Shape.json false Shape.maxDepth).parse (.ok .null) text

end ReleaseAudit.Yaml
