import ReleaseAudit.Json
import ReleaseAudit.Yaml.Token

/-!
# Nodes

The tree that the tokens of a document spell. `α` is what an alias refers to its node by: its name in a
tree that has just been read, a number after anchors have been resolved.
-/

namespace ReleaseAudit.Yaml

open Text (Cut)

/-- What may stand in front of a node. -/
structure Properties where
  anchor : Option String := none
  tag : Option String := none
deriving Repr

inductive Node (α : Type) where
  | reference (target : α)
  | scalar (properties : Properties) (plain : Bool) (text : String)
  | sequence (properties : Properties) (items : List (Node α))
  | mapping (properties : Properties) (entries : List (Node α × Node α))
deriving Inhabited, Repr

namespace Node

/-- What is read where a node is missing. -/
def empty {α : Type} : Node α := .scalar {} true ""

/-- The handles of tags with what they stand for. A handle that a document defines itself counts before
those that are always there. -/
abbrev Handles := List (String × String)

def defaultHandles : Handles := [("!", "!"), ("!!", "tag:yaml.org,2002:")]

def expandTag? (handles : Handles) (handle suffix : String) : Option String :=
  if handle.isEmpty then some suffix else (handles.lookup handle).map (· ++ suffix)

abbrev Tokens := List Token

/-- The anchor and the tag in front of a node, each at most once and in either order. -/
def properties? (handles : Handles) (ts : Tokens) : Option (Cut ts.length Properties Token) :=
  match ts with
  | .anchor a :: .tag h s :: rest => both a h s rest
  | .tag h s :: .anchor a :: rest => both a h s rest
  | .anchor a :: rest => some ⟨{ anchor := some a }, rest, by simp⟩
  | .tag h s :: rest => do
    return ⟨{ tag := some (← expandTag? handles h s) }, rest, by simp⟩
  | ts => some (.here {} ts)
where
  both (a h s : String) (rest : Tokens) : Option (Cut (rest.length + 1 + 1) Properties Token) := do
    return ⟨{ anchor := some a, tag := some (← expandTag? handles h s) }, rest, by omega⟩

/-- On a scalar a single exclamation mark is no tag. -/
def ofScalar {α : Type} (p : Properties) (plain : Bool) (text : String) : Node α :=
  .scalar { p with tag := p.tag.filter (· != "!") } plain text

/-- Where a node is expected. -/
structure Place where
  /-- Block collections may stand here. -/
  block : Bool
  /-- Items at the indentation of the mapping around them may stand here. -/
  indentless : Bool := false

/-- Whether the tokens begin with one of `marks`, in front of which a node is missing. -/
def atOneOf (marks : List Token) (ts : Tokens) : Bool := ts.head?.any marks.contains

/-- What follows an item that is missing. -/
def itemEnds (indentless : Bool) : List Token :=
  if indentless then [.item, .key, .value, .blockEnd] else [.item, .blockEnd]

/-- What follows a key or a value that is missing. -/
def entryEnds : List Token := [.key, .value, .blockEnd]

theorem lex_of_le {a b m n : Nat} (h : a ≤ b) (hmn : m < n) :
    Prod.Lex (· < ·) (· < ·) (a, m) (b, n) := by
  rcases Nat.lt_or_eq_of_le h with h | rfl
  · exact Prod.Lex.left _ _ h
  · exact Prod.Lex.right _ hmn

variable (handles : Handles)

mutual

def node? (place : Place) (ts : Tokens) : Option (Cut ts.length (Node String) Token) :=
  match ts with
  | .reference name :: rest => some ⟨.reference name, rest, Nat.le_succ _⟩
  | ts => do
    let p ← properties? handles ts
    have hp := p.le
    let bare : Option (Cut ts.length (Node String) Token) :=
      if p.value.anchor.isNone && p.value.tag.isNone then none
      else some (p.map fun q => .scalar q true "")
    if place.indentless && atOneOf [.item] p.rest then
      let items ← items? true p.rest
      return (items.map (.sequence p.value)).widen hp
    else
      match hr : p.rest with
      | [] => bare
      | t :: rest =>
        have hlt : rest.length < ts.length := by rw [hr, List.length_cons] at hp; omega
        match t with
        | .scalar plain text => some ⟨ofScalar p.value plain text, rest, Nat.le_of_lt hlt⟩
        | .flowSequence =>
          return ((← flowItems? rest).map (.sequence p.value)).widen (Nat.le_of_lt hlt)
        | .flowMapping =>
          return ((← flowEntries? rest).map (.mapping p.value)).widen (Nat.le_of_lt hlt)
        | .blockSequence =>
          if place.block then
            return ((← items? false rest).map (.sequence p.value)).widen (Nat.le_of_lt hlt)
          else bare
        | .blockMapping =>
          if place.block then
            return ((← entries? rest).map (.mapping p.value)).widen (Nat.le_of_lt hlt)
          else bare
        | _ => bare
termination_by (ts.length, 1)
decreasing_by
  · exact lex_of_le hp Nat.zero_lt_one
  all_goals decreasing_tactic

/-- A node, or an empty one in front of one of `ends`. -/
def nodeUnless? (place : Place) (ends : List Token) (ts : Tokens) :
    Option (Cut ts.length (Node String) Token) :=
  if atOneOf ends ts then some (.here empty ts) else node? place ts
termination_by (ts.length, 2)

/-- The value behind a key. -/
def valueUnless? (place : Place) (ends : List Token) (ts : Tokens) :
    Option (Cut ts.length (Node String) Token) :=
  match ts with
  | .value :: rest => (nodeUnless? place ends rest).map (·.widen (Nat.le_succ _))
  | ts => some (.here empty ts)
termination_by (ts.length, 0)

/-- The items of a block sequence and its end. A sequence at the indentation of the mapping around it
has no end of its own. -/
def items? (indentless : Bool) (ts : Tokens) : Option (Cut ts.length (List (Node String)) Token) :=
  match ts with
  | .item :: rest => do
    let first ← nodeUnless? { block := true } (itemEnds indentless) rest
    have h₁ := first.le
    let more ← items? indentless first.rest
    return (more.map (first.value :: ·)).widen (by simp only [List.length_cons]; omega)
  | .blockEnd :: rest =>
    some (if indentless then .here [] (.blockEnd :: rest) else ⟨[], rest, Nat.le_succ _⟩)
  | ts => if indentless then some (.here [] ts) else none
termination_by (ts.length, 0)

/-- The entries of a block mapping and its end. -/
def entries? (ts : Tokens) :
    Option (Cut ts.length (List (Node String × Node String)) Token) :=
  match ts with
  | .key :: rest => do
    let place : Place := { block := true, indentless := true }
    let key ← nodeUnless? place entryEnds rest
    have h₁ := key.le
    let value ← valueUnless? place entryEnds key.rest
    have h₂ := value.le
    let more ← entries? value.rest
    return (more.map ((key.value, value.value) :: ·)).widen (by simp only [List.length_cons]; omega)
  | .blockEnd :: rest => some ⟨[], rest, Nat.le_succ _⟩
  | _ => none
termination_by (ts.length, 0)

/-- The items of a flow sequence up to and including its end. An explicit key makes a mapping with one
entry; where its node is missing, the token that shows this is taken with it. -/
def flowItems? (ts : Tokens) : Option (Cut ts.length (List (Node String)) Token) :=
  match ts with
  | .flowSequenceEnd :: rest => some ⟨[], rest, Nat.le_succ _⟩
  | .key :: rest => do
    let key : Cut rest.length (Node String) Token ←
      if atOneOf [.value, .separator, .flowSequenceEnd] rest then some ⟨empty, rest.tail, by simp⟩
      else node? { block := false } rest
    have h₁ := key.le
    let value ← valueUnless? { block := false } [.separator, .flowSequenceEnd] key.rest
    have h₂ := value.le
    let more ← flowItemsRest? value.rest
    return (more.map (.mapping {} [(key.value, value.value)] :: ·)).widen
      (by simp only [List.length_cons]; omega)
  | ts => do
    let first ← node? { block := false } ts
    have h₁ := first.le
    let more ← flowItemsRest? first.rest
    return (more.map (first.value :: ·)).widen h₁
termination_by (ts.length, 4)
decreasing_by
  all_goals first | decreasing_tactic | exact lex_of_le h₁ (by decide)

def flowItemsRest? (ts : Tokens) : Option (Cut ts.length (List (Node String)) Token) :=
  match ts with
  | .flowSequenceEnd :: rest => some ⟨[], rest, Nat.le_succ _⟩
  | .separator :: rest => (flowItems? rest).map (·.widen (Nat.le_succ _))
  | _ => none
termination_by (ts.length, 3)

/-- The entries of a flow mapping up to and including its end. -/
def flowEntries? (ts : Tokens) :
    Option (Cut ts.length (List (Node String × Node String)) Token) :=
  match ts with
  | .flowMappingEnd :: rest => some ⟨[], rest, Nat.le_succ _⟩
  | .key :: rest => do
    let key ← nodeUnless? { block := false } [.value, .separator, .flowMappingEnd] rest
    have h₁ := key.le
    let value ← valueUnless? { block := false } [.separator, .flowMappingEnd] key.rest
    have h₂ := value.le
    let more ← flowEntriesRest? value.rest
    return (more.map ((key.value, value.value) :: ·)).widen (by simp only [List.length_cons]; omega)
  | ts => do
    let key ← node? { block := false } ts
    have h₁ := key.le
    let more ← flowEntriesRest? key.rest
    return (more.map ((key.value, empty) :: ·)).widen h₁
termination_by (ts.length, 4)
decreasing_by
  all_goals first | decreasing_tactic | exact lex_of_le h₁ (by decide)

def flowEntriesRest? (ts : Tokens) :
    Option (Cut ts.length (List (Node String × Node String)) Token) :=
  match ts with
  | .flowMappingEnd :: rest => some ⟨[], rest, Nat.le_succ _⟩
  | .separator :: rest => (flowEntries? rest).map (·.widen (Nat.le_succ _))
  | _ => none
termination_by (ts.length, 3)

end

end Node

end ReleaseAudit.Yaml
