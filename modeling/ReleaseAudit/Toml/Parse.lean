import ReleaseAudit.Toml
import ReleaseAudit.Toml.Text

/-!
# Reading settings

One setting or header a line, with comments behind a number sign.
-/

namespace ReleaseAudit.Toml

open Text (Cut)

/-! ## Keys -/

def isKeyChar (c : Char) : Bool := c.isAlphanum || c == '_' || c == '-'

def simpleKey? (cs : List Char) : Option (Cut cs.length String) :=
  match cs with
  | '"' :: rest => (line? '"' rest).map fun t => (t.map String.ofList).past
  | '\'' :: rest => (line? '\'' rest).map fun t => (t.map String.ofList).past
  | cs =>
    let key := Cut.span isKeyChar cs
    if key.value.isEmpty then none else some (key.map String.ofList)

def skipBlanks (cs : List Char) : Cut cs.length Unit := (Cut.span isBlank cs).map fun _ => ()

/-- The keys of a dotted key, with the blanks around them. -/
def key? (cs : List Char) : Option (Cut cs.length (List String × String)) := do
  let first ← simpleKey? (skipBlanks cs).rest
  let gap := (skipBlanks cs).andThen (first.andThen (skipBlanks first.rest))
  match _h : gap.rest with
  | '.' :: rest => do
    have hr : rest.length < cs.length := gap.lt_of_rest_eq _h
    let more ← key? rest
    some ((more.map fun (path, key) => (first.value :: path, key)).widen (Nat.le_of_lt hr))
  | _ => some (gap.map fun _ => ([], first.value))
termination_by cs.length

/-! ## Values -/

/-- Digits with single underscores between them. -/
def digits? (radix : Nat) (cs : List Char) : Option Nat :=
  let groups := Text.splitBy (· == '_') cs
  if groups.any List.isEmpty then none
  else groups.flatten.foldlM (fun n c => ((Json.hexDigit? c).filter (· < radix)).map (radix * n + ·)) 0

/-- A decimal number does not begin with a needless zero. -/
def decimal? (cs : List Char) : Option Nat :=
  if cs.head? == some '0' && cs != ['0'] then none else digits? 10 cs

def integer? (cs : List Char) : Option Int :=
  let value? :=
    match cs with
    | '0' :: 'x' :: rest => (digits? 16 rest).map Int.ofNat
    | '0' :: 'o' :: rest => (digits? 8 rest).map Int.ofNat
    | '0' :: 'b' :: rest => (digits? 2 rest).map Int.ofNat
    | '+' :: rest => (decimal? rest).map Int.ofNat
    | '-' :: rest => (decimal? rest).map fun n => -(n : Int)
    | cs => (decimal? cs).map Int.ofNat
  value?.filter fun n => -(Decimal.twoPow 63) ≤ n && n < Decimal.twoPow 63

/-- A value that is written as a word. -/
def word? (cs : List Char) : Option Toml :=
  if cs == "true".toList then some (.boolean true)
  else if cs == "false".toList then some (.boolean false)
  else (integer? cs).map .integer

def isWordChar (c : Char) : Bool := c.isAlphanum || c == '_' || c == '-' || c == '+' || c == '.' || c == ':'

/-- Skips blanks and a comment; what follows is a line break or the end. -/
def lineEnd? (cs : List Char) : Option (Cut cs.length Unit) :=
  let gap := skipBlanks cs
  let comment : Cut cs.length Unit :=
    match gap.next? (· == '#') with
    | some mark => (mark.andThen (Cut.span isPlain mark.rest)).map fun _ => ()
    | none => gap
  if comment.rest.isEmpty || (afterBreak? comment.rest).isSome then some comment else none

/-- Skips blanks, comments and line breaks. -/
def skipLines (cs : List Char) : Cut cs.length Unit :=
  match lineEnd? cs with
  | none => skipBlanks cs
  | some line =>
    match _h : afterBreak? line.rest with
    | some rest =>
      have hr : rest.length < cs.length := Nat.lt_of_lt_of_le (length_afterBreak?_lt _h) line.le
      (skipLines rest).widen (Nat.le_of_lt hr)
    | none => line
termination_by cs.length

mutual

/-- A value in front of `cs`. -/
def value? (cs : List Char) : Option (Cut cs.length Toml) :=
  match cs with
  | '"' :: rest =>
    (text? '"' rest).map fun t => (t.map fun t => .string (String.ofList t)).past
  | '\'' :: rest =>
    (text? '\'' rest).map fun t => (t.map fun t => .string (String.ofList t)).past
  | '[' :: rest =>
    ((skipLines rest).next? (· == ']')).map fun t => (t.map fun _ => .table .inline []).past
  | '\x7b' :: rest =>
    match (skipBlanks rest).next? (· == '\x7d') with
    | some t => some (t.map fun _ => .table .inline []).past
    | none => (entries? [] rest).map fun t => (t.map (.table .inline)).past
  | cs => do
    let word := Cut.span isWordChar cs
    let value ← word? word.value
    some (word.map fun _ => value)
termination_by cs.length

/-- The entries of a table between braces up to the closing brace, behind the ones there are. -/
def entries? (found : Entries) (cs : List Char) : Option (Cut cs.length Entries) := do
  let key ← key? cs
  have h₁ := key.le
  match hk : key.rest with
  | '=' :: rest => do
    let gap := skipBlanks rest
    have h₂ : gap.rest.length < cs.length := by
      rw [hk, List.length_cons] at h₁; exact Nat.lt_of_le_of_lt gap.le h₁
    have hr : (skipBlanks rest).rest.length < cs.length := by
      rw [hk, List.length_cons] at h₁; exact Nat.lt_of_le_of_lt gap.le h₁
    let value ← value? gap.rest
    have h₃ := value.le
    let found ← add? key.value.1 key.value.2 value.value found
    let gap' := skipBlanks value.rest
    have h₄ : gap'.rest.length ≤ value.rest.length := gap'.le
    match h₅ : gap'.rest with
    | ',' :: rest' => do
      have h₆ : rest'.length < cs.length := by
        rw [h₅, List.length_cons] at h₄; omega
      let more ← entries? found rest'
      some (more.widen (Nat.le_of_lt h₆))
    | '\x7d' :: rest' => some ⟨found, rest', by
        rw [h₅, List.length_cons] at h₄; omega⟩
    | _ => none
  | _ => none
termination_by cs.length

end

/-! ## Documents -/

/-- The setting that begins with `c`, with the end of its line: the keys in front of the last one, the
last one, the value. -/
def setting? (c : Char) (cs : List Char) : Option (Cut cs.length (List String × String × Toml)) := do
  let key ← key? (c :: cs)
  match h : key.rest with
  | '=' :: rest =>
    let gap := skipBlanks rest
    let value ← value? gap.rest
    let line ← lineEnd? value.rest
    some ((line.map fun _ => (key.value.1, key.value.2, value.value)).widen (by
      have h₁ := key.le; have h₂ := gap.le; have h₃ := value.le; have h₄ := line.le
      rw [h] at h₁; simp only [List.length_cons] at h₁; omega))
  | _ => none

/-- A header behind its bracket, with the end of its line. -/
def header? (cs : List Char) : Option (Cut cs.length (List String × String)) := do
  let key ← key? cs
  let mark ← key.next? (· == ']')
  let line ← lineEnd? mark.rest
  some (mark.andThen (line.map fun _ => key.value))

/-- Reads the rest of a document below the header `header`. -/
def parseFrom? (root : Entries) (header : List String) (cs : List Char) : Option Entries :=
  match _h : (skipLines cs).rest with
  | [] => some root
  | c :: rest =>
    have hc : (c :: rest).length ≤ cs.length := _h ▸ (skipLines cs).le
    if c == '[' then do
      let line ← header? rest
      have : line.rest.length < cs.length := Nat.lt_of_le_of_lt line.le hc
      let (path, key) := line.value
      parseFrom? (← openTable? path key root) (path ++ [key]) line.rest
    else do
      let line ← setting? c rest
      have : line.rest.length < cs.length := Nat.lt_of_le_of_lt line.le hc
      let (path, key, value) := line.value
      parseFrom? (← addBelow? header path key value root) header line.rest
termination_by cs.length

/-- The settings of a text. A byte order mark at its start counts for nothing. -/
def parse (text : String) : Except Malformed Entries :=
  let cs :=
    match text.toList with
    | '\ufeff' :: rest => rest
    | cs => cs
  match parseFrom? [] [] cs with
  | some root => .ok root
  | none => .error ⟨.toml⟩

end ReleaseAudit.Toml
