import ReleaseAudit.Json.Parse

/-!
# Texts in TOML

Texts stand between single or double quotes; between double quotes they may hold escapes. Between
three quotes of a kind a text may run over several lines. Its line breaks are line feeds however they
are written, and the first one counts for nothing if it stands at the start.
-/

namespace ReleaseAudit.Toml

open Text (Cut)

def isBlank (c : Char) : Bool := c == ' ' || c == '\t'

/-- Whether the character may stand in a text or a comment as it is. -/
def isPlain (c : Char) : Bool := c == '\t' || (' ' ≤ c && c ≤ '~') || '\x80' ≤ c

/-- The text behind a line break. -/
def afterBreak? : List Char → Option (List Char)
  | '\n' :: rest | '\r' :: '\n' :: rest => some rest
  | _ => none

theorem length_afterBreak?_lt {cs rest : List Char} (h : afterBreak? cs = some rest) :
    rest.length < cs.length := by
  unfold afterBreak? at h
  split at h
  · cases h
    exact Nat.lt_succ_self _
  · cases h
    exact Nat.lt_succ_of_lt (Nat.lt_succ_self _)
  · cases h

/-- A line break in front. -/
def lineBreak? (cs : List Char) : Option (Cut cs.length Unit) :=
  match h : afterBreak? cs with
  | some rest => some ⟨(), rest, Nat.le_of_lt (length_afterBreak?_lt h)⟩
  | none => none

/-- Skips blanks and line breaks. -/
def skipSpace (cs : List Char) : Cut cs.length Unit :=
  match _h : afterBreak? (cs.dropWhile isBlank) with
  | some rest =>
    have hr : rest.length < cs.length :=
      Nat.lt_of_lt_of_le (length_afterBreak?_lt _h) (List.dropWhile_suffix isBlank).length_le
    (skipSpace rest).widen (Nat.le_of_lt hr)
  | none => ⟨(), cs.dropWhile isBlank, (List.dropWhile_suffix isBlank).length_le⟩
termination_by cs.length

def simpleEscape? : Char → Option Char
  | '"' => some '"'
  | '\\' => some '\\'
  | 'b' => some '\x08'
  | 'f' => some '\x0c'
  | 'n' => some '\n'
  | 'r' => some '\r'
  | 't' => some '\t'
  | _ => none

/-- The character of an escape behind its backslash. -/
def escape? (cs : List Char) : Option (Cut cs.length Char) :=
  match cs with
  | 'u' :: rest => (number? 4 rest).map Cut.past
  | 'U' :: rest => (number? 8 rest).map Cut.past
  | c :: rest => (simpleEscape? c).map fun c => (Cut.here c rest).past
  | [] => none
where
  number? (count : Nat) (cs : List Char) : Option (Cut cs.length Char) := do
    if cs.length < count then none
    let n ← (cs.take count).foldlM (fun n c => (Json.hexDigit? c).map (16 * n + ·)) 0
    return Cut.drop count (← Json.scalar? n) cs

/-- The text on one line behind an opening quote, with its closing quote. -/
def line? (quote : Char) (cs : List Char) : Option (Cut cs.length (List Char)) :=
  match cs with
  | [] => none
  | c :: rest =>
    if c == quote then some (Cut.here [] rest).past
    else if c == '\\' && quote == '"' then do
      let char ← escape? rest
      let tail ← line? quote char.rest
      some (char.andThen (tail.map (char.value :: ·))).past
    else if isPlain c then do
      let tail ← line? quote rest
      some (tail.map (c :: ·)).past
    else none
termination_by cs.length
decreasing_by
  · exact Nat.lt_succ_of_le char.le
  · exact Nat.lt_succ_self _

/-- The text behind three opening quotes. Of the quotes that close it the last three do, and at most two
before them belong to the text. A backslash at the end of a line drops the space up to the next
character. -/
def lines? (quote : Char) (cs : List Char) : Option (Cut cs.length (List Char)) :=
  match cs with
  | [] => none
  | c :: rest =>
    if c == quote then
      let more := Cut.span (· == quote) rest
      let count := more.value.length + 1
      if 3 ≤ count then
        if count ≤ 5 then some (more.map fun _ => List.replicate (count - 3) quote).past else none
      else do
        let tail ← lines? quote more.rest
        some (more.andThen (tail.map (List.replicate count quote ++ ·))).past
    else if c == '\\' && quote == '"' then
      let blanks := Cut.span isBlank rest
      match lineBreak? blanks.rest with
      | some next => do
        let space := skipSpace next.rest
        let tail ← lines? quote space.rest
        some (blanks.andThen (next.andThen (space.andThen tail))).past
      | none => do
        let char ← escape? rest
        let tail ← lines? quote char.rest
        some (char.andThen (tail.map (char.value :: ·))).past
    else
      match _h : afterBreak? (c :: rest) with
      | some next => do
        let tail ← lines? quote next
        some ((tail.map ('\n' :: ·)).widen (Nat.le_of_lt (length_afterBreak?_lt _h)))
      | none =>
        if isPlain c then do
          let tail ← lines? quote rest
          some (tail.map (c :: ·)).past
        else none
termination_by cs.length
decreasing_by
  · exact Nat.lt_succ_of_le more.le
  · exact Nat.lt_succ_of_le (Nat.le_trans space.le (Nat.le_trans next.le blanks.le))
  · exact Nat.lt_succ_of_le char.le
  · exact length_afterBreak?_lt _h
  · exact Nat.lt_succ_self _

/-- A text of either kind behind its first quote. -/
def text? (quote : Char) (cs : List Char) : Option (Cut cs.length (List Char)) :=
  match cs with
  | a :: b :: rest =>
    if a == quote && b == quote then
      let start := (lineBreak? rest).getD (.here () rest)
      (lines? quote start.rest).map fun t => (start.andThen t).past.past
    else line? quote (a :: b :: rest)
  | cs => line? quote cs

end ReleaseAudit.Toml
