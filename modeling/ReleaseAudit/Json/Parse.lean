import ReleaseAudit.Json
import ReleaseAudit.Json.Number
import ReleaseAudit.Text.Search

/-!
# Reading JSON

A strict reader: no comments, no trailing commas, no bare control characters, no lone surrogates, and
arrays and objects nested less than 128 deep. Of two members with the same key the later one counts.
-/

namespace ReleaseAudit.Json

open Text (Cut)

def isGap (c : Char) : Bool := c == ' ' || c == '\n' || c == '\t' || c == '\r'

def skipGap (cs : List Char) : Cut cs.length Unit := (Cut.span isGap cs).map fun _ => ()

/-! ## Strings -/

def hexDigit? (c : Char) : Option Nat :=
  if c.isDigit then some (c.toNat - 48)
  else if 'a' ≤ c && c ≤ 'f' then some (c.toNat - 87)
  else if 'A' ≤ c && c ≤ 'F' then some (c.toNat - 55)
  else none

def hexUnit? (a b c d : Char) : Option Nat := do
  return (((← hexDigit? a) * 16 + (← hexDigit? b)) * 16 + (← hexDigit? c)) * 16 + (← hexDigit? d)

def scalar? (n : Nat) : Option Char := if h : n.isValidChar then some (Char.ofNatAux n h) else none

def simpleEscape? : Char → Option Char
  | '"' => some '"'
  | '\\' => some '\\'
  | '/' => some '/'
  | 'b' => some '\x08'
  | 'f' => some '\x0c'
  | 'n' => some '\n'
  | 'r' => some '\r'
  | 't' => some '\t'
  | _ => none

/-- The code unit of four hexadecimal digits. -/
def unit? (cs : List Char) : Option (Cut cs.length Nat) :=
  match cs with
  | a :: b :: c :: d :: rest =>
    (hexUnit? a b c d).map fun n => (Cut.here n rest).past.past.past.past
  | _ => none

/-- The low surrogate that is escaped in front of `cs`. -/
def lowSurrogate? (cs : List Char) : Option (Cut cs.length Nat) :=
  match cs with
  | '\\' :: 'u' :: rest => do
    let low ← unit? rest
    if 0xdc00 ≤ low.value && low.value < 0xe000 then
      some low.past.past
    else none
  | _ => none

/-- The character of a code unit escape and what follows it; a high surrogate needs a low one. -/
def unitEscape? (cs : List Char) : Option (Cut cs.length Char) := do
  let unit ← unit? cs
  if 0xd800 ≤ unit.value && unit.value < 0xdc00 then
    let low ← lowSurrogate? unit.rest
    let char ← scalar? (0x10000 + (unit.value - 0xd800) * 0x400 + (low.value - 0xdc00))
    some (unit.andThen (low.map fun _ => char))
  else
    let char ← scalar? unit.value
    some (unit.map fun _ => char)

/-- The content of a string behind its opening quote. -/
def stringBody? (cs : List Char) : Option (Cut cs.length (List Char)) :=
  match cs with
  | [] => none
  | '"' :: rest => some (Cut.here [] rest).past
  | '\\' :: 'u' :: rest => do
    let char ← unitEscape? rest
    let tail ← stringBody? char.rest
    some (char.andThen (tail.map (char.value :: ·))).past.past
  | '\\' :: c :: rest => do
    let char ← simpleEscape? c
    let tail ← stringBody? rest
    some (tail.map (char :: ·)).past.past
  | c :: rest => do
    if c.toNat < 32 || c == '\\' then none
    let tail ← stringBody? rest
    some (tail.map (c :: ·)).past
termination_by cs.length
decreasing_by
  · exact Nat.lt_succ_of_lt (Nat.lt_succ_of_le char.le)
  · exact Nat.lt_succ_of_lt (Nat.lt_succ_self _)
  · exact Nat.lt_succ_self _

/-! ## Values -/

def word? (word : String) (value : Json) (cs : List Char) : Option (Cut cs.length Json) :=
  match h : Text.stripPrefix? word.toList cs with
  | some rest => some ⟨value, rest, Text.length_stripPrefix?_le h⟩
  | none => none

def number? (cs : List Char) : Option (Cut cs.length Json) :=
  match cs with
  | '-' :: rest => (readMagnitude? rest).map fun x => (x.map fun y => number (-y)).past
  | cs => (readMagnitude? cs).map fun x => x.map number

mutual

/-- A value in front of `cs`, with at most `depth` levels of arrays and objects. -/
def value? (depth : Nat) (cs : List Char) : Option (Cut cs.length Json) :=
  let gap := skipGap cs
  match hc : gap.rest with
  | [] => none
  | c :: rest =>
    have hr : rest.length < cs.length := gap.lt_of_rest_eq hc
    if c == '"' then
      (stringBody? rest).map fun s =>
        (s.map fun s => string (String.ofList s)).widen (Nat.le_of_lt hr)
    else if c == '[' || c == '\x7b' then
      match depth with
      | 0 => none
      | depth + 1 =>
        let close := if c == '[' then ']' else '\x7d'
        match (skipGap rest).next? (· == close) with
        | some e =>
          some ((e.map fun _ => if c == '[' then array [] else object []).widen (Nat.le_of_lt hr))
        | none =>
          if c == '[' then
            (elements? depth rest).map fun js => (js.map array).widen (Nat.le_of_lt hr)
          else
            (members? depth rest).map fun es =>
              (es.map fun es => object (Dict.ofList es)).widen (Nat.le_of_lt hr)
    else
      (word? "null" null gap.rest <|> word? "true" (bool true) gap.rest <|>
        word? "false" (bool false) gap.rest <|> number? gap.rest).map gap.andThen
termination_by (cs.length, 1)

/-- The items of an array up to and including the closing bracket. -/
def elements? (depth : Nat) (cs : List Char) : Option (Cut cs.length (List Json)) := do
  let first ← value? depth cs
  let gap := first.andThen (skipGap first.rest)
  match hc : gap.rest with
  | ']' :: rest => some ⟨[first.value], rest, Nat.le_of_lt (gap.lt_of_rest_eq hc)⟩
  | ',' :: rest => do
    have hr : rest.length < cs.length := gap.lt_of_rest_eq hc
    let more ← elements? depth rest
    some ((more.map (first.value :: ·)).widen (Nat.le_of_lt hr))
  | _ => none
termination_by (cs.length, 2)

/-- The members of an object up to and including the closing brace. -/
def members? (depth : Nat) (cs : List Char) : Option (Cut cs.length (List (String × Json))) :=
  let gap := skipGap cs
  match hc : gap.rest with
  | '"' :: rest => do
    have hr : rest.length < cs.length := gap.lt_of_rest_eq hc
    let key ← stringBody? rest
    let colon ← (key.andThen (skipGap key.rest)).next? (· == ':')
    have : colon.rest.length < cs.length := Nat.lt_of_le_of_lt colon.le hr
    let value ← value? depth colon.rest
    let gap := colon.andThen (value.andThen (skipGap value.rest))
    let entry := (String.ofList key.value, value.value)
    match he : gap.rest with
    | '\x7d' :: after => some ⟨[entry], after, Nat.le_of_lt (Nat.lt_trans (gap.lt_of_rest_eq he) hr)⟩
    | ',' :: after => do
      have hm : after.length < cs.length := Nat.lt_trans (gap.lt_of_rest_eq he) hr
      let more ← members? depth after
      some ((more.map (entry :: ·)).widen (Nat.le_of_lt hm))
    | _ => none
  | _ => none
termination_by (cs.length, 0)

end

/-- Arrays and objects are nested at most this deep. -/
def maxDepth : Nat := 127

def parse (text : String) : Except Malformed Json :=
  match value? maxDepth text.toList with
  | some ⟨j, rest, _⟩ => if (skipGap rest).rest.isEmpty then .ok j else .error ⟨.json⟩
  | none => .error ⟨.json⟩

end ReleaseAudit.Json
