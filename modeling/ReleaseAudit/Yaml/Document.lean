import ReleaseAudit.Dict
import ReleaseAudit.Yaml.Node

/-!
# Documents

A text holds at most one document. Its aliases are resolved to numbers: an anchor gets the number of
names that are known when it stands there, so that an anchor that is set again may share its number
with a later one, and the last node with a number is the one that an alias means.
-/

namespace ReleaseAudit.Yaml

namespace Node

variable {α : Type}

mutual

/-- How often the node starts or ends something or is something that does neither. -/
def events : Node α → Nat
  | reference _ | scalar .. => 1
  | sequence _ items => 2 + itemEvents items
  | mapping _ entries => 2 + entryEvents entries

def itemEvents : List (Node α) → Nat
  | [] => 0
  | n :: ns => events n + itemEvents ns

def entryEvents : List (Node α × Node α) → Nat
  | [] => 0
  | (k, v) :: rest => events k + events v + entryEvents rest

end

end Node

/-- Nodes by the numbers of their anchors, in the order of the document. -/
abbrev Targets := List (Nat × Node Nat)

/-- A part of a document whose aliases are numbers, the names that are known behind it, and the nodes
with anchors in it. -/
structure Linked (β : Type) where
  value : β
  names : Dict Nat
  targets : Targets

namespace Linked

/-- Numbers the anchor of a node whose inner part is linked by `inner`. -/
def anchored (anchor : Option String) (names : Dict Nat)
    (inner : Dict Nat → Option (Linked (Node Nat))) : Option (Linked (Node Nat)) :=
  match anchor with
  | none => inner names
  | some name => do
    let number := names.length
    let node ← inner (names.insert name number)
    return { node with targets := (number, node.value) :: node.targets }

mutual

/-- Links a node behind which and in which the given names are known. -/
def node? (names : Dict Nat) : Node String → Option (Linked (Node Nat))
  | .reference name => (names.get? name).map fun n => ⟨.reference n, names, []⟩
  | .scalar p plain text => anchored p.anchor names fun names => some ⟨.scalar p plain text, names, []⟩
  | .sequence p items => anchored p.anchor names fun names => do
    let linked ← items? names items
    return ⟨.sequence p linked.value, linked.names, linked.targets⟩
  | .mapping p entries => anchored p.anchor names fun names => do
    let linked ← entries? names entries
    return ⟨.mapping p linked.value, linked.names, linked.targets⟩

def items? (names : Dict Nat) : List (Node String) → Option (Linked (List (Node Nat)))
  | [] => some ⟨[], names, []⟩
  | n :: ns => do
    let first ← node? names n
    let more ← items? first.names ns
    return ⟨first.value :: more.value, more.names, first.targets ++ more.targets⟩

def entries? (names : Dict Nat) :
    List (Node String × Node String) → Option (Linked (List (Node Nat × Node Nat)))
  | [] => some ⟨[], names, []⟩
  | (k, v) :: rest => do
    let key ← node? names k
    let value ← node? key.names v
    let more ← entries? value.names rest
    return ⟨(key.value, value.value) :: more.value, more.names,
      key.targets ++ value.targets ++ more.targets⟩

end

end Linked

structure Document where
  /-- A text that holds no document at all has no root. -/
  root : Option (Node Nat)
  targets : Targets

namespace Document

def events (d : Document) : Nat :=
  match d.root with
  | some n => n.events
  | none => 1

/-- The last node with the given number. -/
def target? (d : Document) (number : Nat) : Option (Node Nat) := d.targets.reverse.lookup number

/-- The handles that the directives in front of a document define, each at most once, and the tokens
behind the directives. The version is told at most once and is 1.1 or 1.2. -/
def directives? (version : Bool) (handles : Node.Handles) :
    List Token → Option (Node.Handles × List Token)
  | .version major minor :: rest =>
    if version || major != 1 || (minor != 1 && minor != 2) then none
    else directives? true handles rest
  | .tagHandle handle expansion :: rest =>
    if (handles.lookup handle).isSome then none
    else directives? version ((handle, expansion) :: handles) rest
  | ts => some (handles, ts)

def isDirective : Token → Bool
  | .version .. | .tagHandle .. => true
  | _ => false

/-- Behind a document nothing but its end may stand. -/
def atEnd (ts : List Token) : Bool := ts.all (· == .documentEnd)

/-- The root of the document that the tokens spell, without its start. -/
def content? (handles : Node.Handles) (ts : List Token) : Option (Node String × List Token) :=
  match ts with
  | [] | .documentEnd :: _ => some (.empty, ts)
  | ts => (Node.node? handles { block := true } ts).map fun n => (n.value, n.rest)

/-- The root of the only document; none inside when there is no document. -/
def root? (ts : List Token) : Option (Option (Node String)) := do
  match ts with
  | [] => return none
  | first :: _ =>
    let (own, rest) ← directives? false [] ts
    let handles := own ++ Node.defaultHandles
    let (root, rest) ←
      match rest with
      | .documentStart :: rest => content? handles rest
      | rest =>
        if isDirective first then none
        else (Node.node? handles { block := true } rest).map fun n => (n.value, n.rest)
    if atEnd rest then return some root else none

def parse? (text : String) : Option Document := do
  let tokens ← scan? (← Glyph.ofDocument? text.toList)
  match ← root? tokens with
  | none => return ⟨none, []⟩
  | some root =>
    let linked ← Linked.node? [] root
    return ⟨some linked.value, linked.targets⟩

end Document

end ReleaseAudit.Yaml
