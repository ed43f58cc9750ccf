import ReleaseAudit.Json.Parse
import ReleaseAudit.Yaml.Glyph

/-!
# Scalars

The five ways to write a scalar. Plain and quoted scalars may run over several lines, which are folded:
a single line break reads as a space, and of several the first is dropped. Block scalars are made of
lines that are indented alike, and are folded only when they ask for it.
-/

namespace ReleaseAudit.Yaml

open Text (Cut)

/-! ## Gaps inside a scalar -/

/-- What a run of blanks and breaks stands for. -/
def foldGap (gap : Glyphs) : List Char :=
  match gap.filter Glyph.isBreak with
  | [] => charsOf gap
  | [⟨'\n', _, _, _⟩] => [' ']
  | ⟨'\n', _, _, _⟩ :: more => charsOf more
  | breaks => charsOf breaks

/-- What the gap behind an escaped break stands for: blanks are dropped, breaks are kept. -/
def escapedGap (gap : Glyphs) : List Char := charsOf (gap.filter Glyph.isBreak)

/-! ## Quoted scalars -/

def namedEscape? : Char → Option Char
  | '0' => some '\x00'
  | 'a' => some '\x07'
  | 'b' => some '\x08'
  | 't' | '\t' => some '\t'
  | 'n' => some '\n'
  | 'v' => some '\x0b'
  | 'f' => some '\x0c'
  | 'r' => some '\r'
  | 'e' => some '\x1b'
  | ' ' => some ' '
  | '"' => some '"'
  | '/' => some '/'
  | '\\' => some '\\'
  | 'N' => some '\u0085'
  | '_' => some '\u00a0'
  | 'L' => some '\u2028'
  | 'P' => some '\u2029'
  | _ => none

/-- The number of hexadecimal digits behind an escape letter. -/
def digitCount? : Char → Option Nat
  | 'x' => some 2
  | 'u' => some 4
  | 'U' => some 8
  | _ => none

def hexNumber? (gs : Glyphs) : Option Nat :=
  gs.foldlM (fun n g => (Json.hexDigit? g.char).map (16 * n + ·)) 0

/-- The character of an escape whose letter is `letter`. -/
def escape? (letter : Char) (gs : Glyphs) : Option (Cut gs.length Char Glyph) :=
  match digitCount? letter with
  | none => (namedEscape? letter).map (Cut.here · gs)
  | some n =>
    if gs.length < n then none
    else do
      let char ← Json.scalar? (← hexNumber? (gs.take n))
      some (Cut.drop n char gs)

theorem length_dropWhile_isGap_lt {g : Glyph} (rest : Glyphs) (h : g.isGap = true) :
    ((g :: rest).dropWhile Glyph.isGap).length < (g :: rest).length := by
  simp only [List.dropWhile_cons, h, if_true, List.length_cons]
  exact Nat.lt_succ_of_le (List.dropWhile_suffix _).length_le

/-- The content behind an opening quote, up to and including the closing one. -/
def quoted? (double : Bool) (gs : Glyphs) : Option (Cut gs.length (List Char) Glyph) :=
  match gs with
  | [] => none
  | g :: rest =>
    if atMarker (g :: rest) then none
    else if hg : g.isGap then do
      have := length_dropWhile_isGap_lt rest hg
      let gap := Cut.span Glyph.isGap (g :: rest)
      let tail ← quoted? double gap.rest
      some ((tail.map (foldGap gap.value ++ ·)).widen gap.le)
    else if g.char == (if double then '"' else '\'') then
      match rest with
      | [] => some (.all [])
      | second :: rest' =>
        if !double && second.char == '\'' then do
          let tail ← quoted? double rest'
          some ((tail.map ('\'' :: ·)).widen (by simp only [List.length_cons]; omega))
        else some (Cut.here [] (second :: rest')).past
    else if double && g.char == '\\' then
      match rest with
      | [] => none
      | letter :: rest' =>
        if letter.isBreak then do
          let gap := Cut.span Glyph.isGap rest'
          have hgap : (Cut.span Glyph.isGap rest').rest.length ≤ rest'.length := gap.le
          let tail ← quoted? double gap.rest
          some ((tail.map (escapedGap gap.value ++ ·)).widen (by
            have := gap.le; simp only [List.length_cons]; omega))
        else do
          let char ← escape? letter.char rest'
          have := char.le
          let tail ← quoted? double char.rest
          some ((tail.map (char.value :: ·)).widen (by simp only [List.length_cons]; omega))
    else do
      let tail ← quoted? double rest
      some ((tail.map (g.char :: ·)).widen (Nat.le_succ _))
termination_by gs.length
decreasing_by all_goals first | assumption | (simp only [List.length_cons]; omega)

/-! ## Plain scalars -/

def isFlowMark (c : Char) : Bool :=
  c == ',' || c == '[' || c == ']' || c == '\x7b' || c == '\x7d'

/-- Whether a tab stands in front of the column `margin` on a later line of a gap. -/
def hasStrayTab (margin : Nat) (gap : Glyphs) : Bool :=
  (gap.dropWhile (!·.isBreak)).any fun g => g.char == '\t' && g.column < margin

/-- The rest of a plain scalar, and whether a line break follows it. A scalar in a block ends at a line
that is indented less than `margin`. -/
def plainRest? (inFlow : Bool) (margin : Nat) (gs : Glyphs) :
    Option (Cut gs.length (List Char × Bool) Glyph) :=
  match gs with
  | [] => some (.here ([], false) [])
  | g :: rest =>
    if _hg : g.isGap then
      let gap := Cut.span Glyph.isGap (g :: rest)
      let skipped : Cut (g :: rest).length (List Char × Bool) Glyph :=
        gap.map fun gap => ([], gap.any Glyph.isBreak)
      if hasStrayTab margin gap.value then none
      else
        match gap.rest with
        | [] => some skipped
        | next :: more =>
          if (!inFlow && next.column < margin) || next.char == '#' || atMarker (next :: more) ||
              endsPlain next more then
            if breaksPlain next more then none else some skipped
          else if breaksPlain next more then none
          else do
            let tail ← plainRest? inFlow margin gap.rest
            some ((tail.map fun (text, broken) => (foldGap gap.value ++ text, broken)).widen gap.le)
    else if breaksPlain g rest then none
    else if endsPlain g rest then some (.here ([], false) (g :: rest))
    else do
      let tail ← plainRest? inFlow margin rest
      some ((tail.map fun (text, broken) => (g.char :: text, broken)).widen (Nat.le_succ _))
termination_by gs.length
decreasing_by
  · exact length_dropWhile_isGap_lt rest _hg
  · exact Nat.lt_succ_self _
where
  /-- A colon in front of a mark of a flow collection may not stand in a plain scalar. -/
  breaksPlain (g : Glyph) (rest : Glyphs) : Bool :=
    inFlow && g.char == ':' && rest.head?.any fun n => isFlowMark n.char || n.char == '?'
  endsPlain (g : Glyph) (rest : Glyphs) : Bool :=
    (g.char == ':' && atGap rest) || (inFlow && isFlowMark g.char)

/-! ## Block scalars -/

inductive Chomping where
  | strip | clip | keep
deriving DecidableEq, Repr

/-- The marks behind the indicator of a block scalar: what happens to the breaks at its end, and by how
much its lines are indented against the block around it. -/
structure BlockHeader where
  chomping : Chomping := .clip
  increment : Option Nat := none
deriving Repr

namespace BlockHeader

def chomping? : Char → Option Chomping
  | '+' => some .keep
  | '-' => some .strip
  | _ => none

def increment? (c : Char) : Option Nat :=
  if c.isDigit && c != '0' then some (Decimal.digitValue c) else none

def isMark (c : Char) : Bool := c == '+' || c == '-' || c.isDigit

/-- Each mark stands at most once, in either order. -/
def ofMarks? : List Char → Option BlockHeader
  | [] => some {}
  | [a] => (chomping? a).map ({ chomping := · }) <|> (increment? a).map fun n => { increment := some n }
  | [a, b] => both? a b <|> both? b a
  | _ => none
where
  both? (a b : Char) : Option BlockHeader := do
    return { chomping := ← chomping? a, increment := some (← increment? b) }

end BlockHeader

/-- Skips blanks and a comment. -/
def skipLineEnd (gs : Glyphs) : Cut gs.length Unit Glyph :=
  let blanks := Cut.span Glyph.isBlank gs
  let line :=
    if blanks.rest.head?.any (·.char == '#') then
      blanks.andThen (Cut.span (!·.isBreak) blanks.rest)
    else blanks
  line.map fun _ => ()

/-- The breaks of the empty lines in front of a content line, and the widest indentation of one of
these lines. At most `indent` columns are indentation. -/
def emptyLines? (indent : Option Nat) (gs : Glyphs) : Option (Cut gs.length (List Char × Nat) Glyph) :=
  let inside (g : Glyph) : Bool := indent.all (g.column < ·)
  let line := Cut.span (fun g => inside g && g.char == ' ') gs
  match _hl : line.rest with
  | [] => some (.all ([], 0))
  | g :: rest =>
    have hle : rest.length < gs.length := line.lt_of_rest_eq _hl
    if inside g && g.char == '\t' then none
    else if g.isBreak then do
      let tail ← emptyLines? indent rest
      some ((tail.map fun (breaks, widest) => (g.char :: breaks, max g.column widest)).widen
        (Nat.le_of_lt hle))
    else some (line.map fun _ => ([], g.column))
termination_by gs.length

/-- The text of a block scalar without its last break, that break, and the breaks of the empty lines
at the end. -/
structure BlockText where
  text : List Char
  lastBreak : List Char
  trailing : List Char

def BlockText.chomp (b : BlockText) : Chomping → List Char
  | .strip => b.text
  | .clip => b.text ++ b.lastBreak
  | .keep => b.text ++ b.lastBreak ++ b.trailing

/-- The content lines from here on. `lastBreak` and `empty` are the breaks in front of them, and
`afterBlank` tells whether the line before begins with a blank. -/
def blockLines? (literal : Bool) (indent : Nat) (lastBreak empty : List Char) (afterBlank : Bool)
    (gs : Glyphs) : Option (Cut gs.length BlockText Glyph) :=
  match gs with
  | [] => some (.here ⟨[], lastBreak, empty⟩ [])
  | g :: rest =>
    if g.column != indent then some (.here ⟨[], lastBreak, empty⟩ (g :: rest))
    else
      let folds := !literal && lastBreak == ['\n'] && !afterBlank && !g.isBlank
      let joint := if !folds then lastBreak ++ empty else if empty.isEmpty then [' '] else empty
      let line := Cut.span (!·.isBreak) rest
      let content := joint ++ g.char :: charsOf line.value
      match _hl : line.rest with
      | [] => some (.all ⟨content, [], []⟩)
      | b :: next => do
        have hb : next.length < (g :: rest).length := by
          have := line.le; rw [_hl] at this; simp only [List.length_cons] at this ⊢; omega
        let between ← emptyLines? (some indent) next
        have := between.le
        let tail ← blockLines? literal indent [b.char] between.value.1 g.isBlank between.rest
        some ((tail.map fun t => { t with text := content ++ t.text }).widen (by omega))
termination_by gs.length
decreasing_by simp only [List.length_cons] at *; omega

/-- A block scalar behind its indicator, in a block whose content is indented by `margin` at least. -/
def block? (literal : Bool) (margin : Nat) (gs : Glyphs) : Option (Cut gs.length (List Char) Glyph) := do
  let marks := Cut.span (fun g => BlockHeader.isMark g.char) gs
  let header ← BlockHeader.ofMarks? (charsOf marks.value)
  let line := marks.andThen (skipLineEnd marks.rest)
  if line.rest.isEmpty then some (.all [])
  else do
    let start ← line.next? Glyph.isBreak
    let indent? := header.increment.map (margin - 1 + ·)
    let lead ← emptyLines? indent? start.rest
    let indent := indent?.getD (max lead.value.2 (max margin 1))
    let body ← blockLines? literal indent [] lead.value.1 false lead.rest
    some (start.andThen (lead.andThen (body.map (·.chomp header.chomping))))

end ReleaseAudit.Yaml
