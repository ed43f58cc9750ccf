import ReleaseAudit.Yaml.Scalar

/-!
# Tokens

A document as tokens. Indentation is made explicit: a block collection has a start and an end, and so
has each key. Whether a scalar is a key shows only at the colon behind it, so the start of the key, and
of the mapping if it is the first one, is inserted in front of tokens that are there already.
-/

namespace ReleaseAudit.Yaml

open Text (Cut)

inductive Token where
  | version (major minor : Nat)
  | tagHandle (handle expansion : String)
  | documentStart
  | documentEnd
  | blockSequence
  | blockMapping
  | blockEnd
  | flowSequence
  | flowSequenceEnd
  | flowMapping
  | flowMappingEnd
  | item
  | separator
  | key
  | value
  | reference (name : String)
  | anchor (name : String)
  /-- A tag with an empty handle is written in full. -/
  | tag (handle suffix : String)
  | scalar (plain : Bool) (text : String)
deriving DecidableEq, Repr

/-! ## Names, tags and directives -/

def isWordChar (c : Char) : Bool := c.isAlphanum || c == '_' || c == '-'

/-- What may follow an anchor without a blank. -/
def isNameEnd (c : Char) : Bool := "?:,]\x7d%@`".toList.contains c

def anchorName? (gs : Glyphs) : Option (Cut gs.length String Glyph) :=
  let name := Cut.span (fun g => isWordChar g.char) gs
  if name.value.isEmpty || !(atGap name.rest || name.rest.head?.any fun g => isNameEnd g.char) then none
  else some (name.map fun n => String.ofList (charsOf n))

def isTagChar (c : Char) : Bool := isWordChar c || ";/?:@&=+$.%!~*'()".toList.contains c

/-- In a tag that is written in full or in a directive some marks of flow collections may stand. -/
def isFullTagChar (c : Char) : Bool := isTagChar c || c == ',' || c == '[' || c == ']'

/-- The bytes of a tag with its escapes resolved; none when an escape is incomplete. -/
def tagBytes? : List Char → Option (List UInt8)
  | [] => some []
  | '%' :: a :: b :: rest => do
    let byte := 16 * (← Json.hexDigit? a) + (← Json.hexDigit? b)
    return UInt8.ofNat byte :: (← tagBytes? rest)
  | '%' :: _ => none
  | c :: rest => (tagBytes? rest).map ((String.singleton c).toUTF8.toList ++ ·)

/-- The text of a tag; its escapes spell UTF-8. -/
def tagText? (gs : Glyphs) : Option String := do
  String.fromUTF8? (ByteArray.mk (← tagBytes? (charsOf gs)).toArray)

/-- The rest of a tag handle behind an exclamation mark: a word and, if there is one, the closing
mark. -/
def tagHandle (gs : Glyphs) : Cut gs.length Glyphs Glyph :=
  let word := Cut.span (fun g => isWordChar g.char) gs
  match _hl : word.rest with
  | ⟨'!', l, c, i⟩ :: after =>
    ⟨word.value ++ [⟨'!', l, c, i⟩], after, by
      have := word.le; rw [_hl, List.length_cons] at this; omega⟩
  | _ => word

/-- The form of a tag behind its exclamation mark. -/
def tagForm? (gs : Glyphs) : Option (Cut gs.length Token Glyph) :=
  match gs with
  | ⟨'<', _, _, _⟩ :: rest => do
    let uri := Cut.span (fun g => isFullTagChar g.char) rest
    if uri.value.isEmpty then none
    match _hl : uri.rest with
    | ⟨'>', _, _, _⟩ :: after =>
      some ⟨.tag "" (← tagText? uri.value), after, by
        have := uri.le; rw [_hl, List.length_cons] at this; simp only [List.length_cons]; omega⟩
    | _ => none
  | gs => do
    let handle := tagHandle gs
    let suffix := Cut.span (fun g => isTagChar g.char) handle.rest
    if handle.value.getLast?.any (·.char == '!') then
      if suffix.value.isEmpty then none
      let text ← tagText? suffix.value
      some ((handle.andThen suffix).map fun _ =>
        .tag (String.ofList ('!' :: charsOf handle.value)) text)
    else
      let text ← tagText? (handle.value ++ suffix.value)
      let token := if text.isEmpty then Token.tag "" "!" else .tag "!" text
      some ((handle.andThen suffix).map fun _ => token)

def tag? (inFlow : Bool) (gs : Glyphs) : Option (Cut gs.length Token Glyph) :=
  (tagForm? gs).filter fun t => atGap t.rest || (inFlow && t.rest.head?.any (·.char == ','))

def skipBlanks (gs : Glyphs) : Cut gs.length Unit Glyph := (Cut.span Glyph.isBlank gs).map fun _ => ()

/-- A number of at most nine digits. -/
def versionNumber? (gs : Glyphs) : Option (Cut gs.length Nat Glyph) :=
  let digits := Cut.span (fun g => g.char.isDigit) gs
  if digits.value.isEmpty || 9 < digits.value.length then none
  else some (digits.map fun ds => Decimal.readDigits (charsOf ds))

def version? (gs : Glyphs) : Option (Cut gs.length Token Glyph) := do
  let gap := skipBlanks gs
  let major ← versionNumber? gap.rest
  match _hm : major.rest with
  | ⟨'.', _, _, _⟩ :: rest =>
    let minor ← versionNumber? rest
    some ((minor.map fun n => Token.version major.value n).widen (by
      have h₁ := gap.le; have h₂ := major.le; rw [_hm, List.length_cons] at h₂; omega))
  | _ => none

def tagDefinition? (gs : Glyphs) : Option (Cut gs.length Token Glyph) := do
  let gap := skipBlanks gs
  match _hg : gap.rest with
  | ⟨'!', _, _, _⟩ :: rest =>
    let handle := tagHandle rest
    if !handle.value.isEmpty && !handle.value.getLast?.any (·.char == '!') then none
    let between := Cut.span Glyph.isBlank handle.rest
    if between.value.isEmpty then none
    let uri := Cut.span (fun g => isFullTagChar g.char) between.rest
    if uri.value.isEmpty || !atGap uri.rest then none
    let expansion ← tagText? uri.value
    let token := Token.tagHandle (String.ofList ('!' :: charsOf handle.value)) expansion
    some ((uri.map fun _ => token).widen (by
      have h₁ := gap.le; have h₂ := handle.le; have h₃ := between.le
      rw [_hg, List.length_cons] at h₁; omega))
  | _ => none

/-- A directive behind its percent sign, with the end of its line. -/
def directive? (gs : Glyphs) : Option (Cut gs.length Token Glyph) := do
  let name := Cut.span (fun g => isWordChar g.char) gs
  if !atGap name.rest then none
  let word := String.ofList (charsOf name.value)
  let token ←
    if word == "YAML" then version? name.rest
    else if word == "TAG" then tagDefinition? name.rest
    else none
  let line := (name.andThen (token.andThen (skipLineEnd token.rest))).map fun _ => token.value
  if line.rest.isEmpty then some line else line.next? Glyph.isBreak

/-! ## The scanner -/

/-- What may turn out to be a key. It has to be one if the mapping around it goes on where it starts. -/
structure PendingKey where
  required : Bool
  /-- The number of tokens in front of it. -/
  number : Nat
  start : Glyph
deriving Repr

structure Scanner where
  /-- The last token comes first. -/
  tokens : List Token := []
  /-- The columns of the open block collections, the innermost first. -/
  blocks : List Nat := []
  keyAllowed : Bool := true
  key : Option PendingKey := none
  /-- The pending keys around each open flow collection, the innermost first. -/
  outer : List (Option PendingKey) := []

namespace Scanner

def inFlow (s : Scanner) : Bool := !s.outer.isEmpty

/-- The least column of what stands inside the innermost block collection. -/
def margin (s : Scanner) : Nat := (s.blocks.head?.map (· + 1)).getD 0

def emit (s : Scanner) (t : Token) : Scanner := { s with tokens := t :: s.tokens }

/-- Inserts a token that has `number` tokens in front of it. -/
def insertToken (s : Scanner) (number : Nat) (t : Token) : Scanner :=
  let behind := s.tokens.length - number
  { s with tokens := s.tokens.take behind ++ t :: s.tokens.drop behind }

/-- Opens a block collection at a column, unless one is open there. -/
def openBlock (s : Scanner) (column number : Nat) (t : Token) : Scanner :=
  if s.inFlow || s.blocks.head?.any (column ≤ ·) then s
  else { s.insertToken number t with blocks := column :: s.blocks }

/-- Closes the block collections at the columns that satisfy `p`, from the innermost outward. -/
def closeWhile (s : Scanner) (p : Nat → Bool) : Scanner :=
  if s.inFlow then s
  else
    let closed := s.blocks.takeWhile p
    { s with
      tokens := closed.map (fun _ => Token.blockEnd) ++ s.tokens
      blocks := s.blocks.drop closed.length }

def closeAll (s : Scanner) : Scanner := s.closeWhile fun _ => true

def dropKey? (s : Scanner) : Option Scanner :=
  if s.key.any (·.required) then none else some { s with key := none }

/-- A key stays on one line and has at most 1024 characters. -/
def isStale (g : Glyph) (k : PendingKey) : Bool :=
  k.start.line < g.line || k.start.index + 1024 < g.index

/-- Gives up the keys that cannot be keys any more where `g` stands. -/
def dropStaleKeys? (s : Scanner) (g : Glyph) : Option Scanner :=
  let keys := s.key :: s.outer
  if keys.any fun k => k.any fun k => k.required && isStale g k then none
  else
    let keep (k : Option PendingKey) := k.filter (!isStale g ·)
    some { s with key := keep s.key, outer := s.outer.map keep }

def saveKey? (s : Scanner) (g : Glyph) : Option Scanner :=
  if s.keyAllowed then do
    let key := {
      required := !s.inFlow && s.blocks.head? == some g.column
      number := s.tokens.length
      start := g }
    return { ← s.dropKey? with key := some key }
  else some s

/-- The colon behind a key, or behind an empty or explicit one. -/
def value? (s : Scanner) (g : Glyph) : Option Scanner :=
  match s.key with
  | some k =>
    let s := (s.insertToken k.number .key).openBlock k.start.column k.number .blockMapping
    some { s.emit .value with key := none, keyAllowed := false }
  | none =>
    if s.inFlow then some { s.emit .value with keyAllowed := false }
    else if !s.keyAllowed then none
    else
      let s := s.openBlock g.column s.tokens.length .blockMapping
      some { s.emit .value with keyAllowed := true }

/-- The mark of an item or of an explicit key, which opens the collection around it. -/
def mark? (s : Scanner) (g : Glyph) (collection mark : Token) (keyAllowed : Bool) : Option Scanner := do
  if !s.inFlow && !s.keyAllowed then none
  let s ← (s.openBlock g.column s.tokens.length collection).dropKey?
  return { s.emit mark with keyAllowed }

def openFlow? (s : Scanner) (g : Glyph) (t : Token) : Option Scanner := do
  let s ← s.saveKey? g
  return { s.emit t with outer := s.key :: s.outer, key := none, keyAllowed := true }

def closeFlow? (s : Scanner) (t : Token) : Option Scanner := do
  let s ← s.dropKey?
  return { s.emit t with key := s.outer.head?.join, outer := s.outer.tail, keyAllowed := false }

def separator? (s : Scanner) : Option Scanner := do
  return { (← s.dropKey?).emit .separator with keyAllowed := true }

/-- Emits a token that may be a key or the start of one. -/
def node? {n : Nat} (s : Scanner) (g : Glyph) (t : Option (Cut n Token Glyph)) :
    Option (Cut n Scanner Glyph) := do
  let s ← s.saveKey? g
  return (← t).map fun t => { s.emit t with keyAllowed := false }

/-- A block scalar is no key, but the line behind it may start one. -/
def block? (s : Scanner) (literal : Bool) (rest : Glyphs) : Option (Cut rest.length Scanner Glyph) := do
  let s ← s.dropKey?
  let text ← Yaml.block? literal s.margin rest
  return text.map fun t => { s.emit (.scalar false (String.ofList t)) with keyAllowed := true }

def plain? (s : Scanner) (g : Glyph) (rest : Glyphs) : Option (Cut rest.length Scanner Glyph) := do
  let s ← s.saveKey? g
  let text ← plainRest? s.inFlow s.margin rest
  return text.map fun (t, broken) =>
    { s.emit (.scalar true (String.ofList (g.char :: t))) with keyAllowed := broken }

def isIndicator (c : Char) : Bool := "-?:,[]\x7b\x7d#&*!|>'\"%@`".toList.contains c

/-- Whether a plain scalar begins with `c`. A tab is left over where a key may stand, and begins
nothing. -/
def startsPlain (s : Scanner) (c : Char) (rest : Glyphs) : Bool :=
  (!isIndicator c && c != '\t') || (c == '-' && !rest.head?.any Glyph.isBlank) ||
    (!s.inFlow && (c == '?' || c == ':') && !atGap rest)

/-- What stands at a glyph that is no gap. -/
def step? (s : Scanner) (g : Glyph) (rest : Glyphs) : Option (Cut rest.length Scanner Glyph) :=
  let here (s : Option Scanner) : Option (Cut rest.length Scanner Glyph) := s.map (Cut.here · rest)
  if g.column == 0 && g.char == '%' then do
    let s ← s.closeAll.dropKey?
    return (← directive? rest).map fun t => { s.emit t with keyAllowed := false }
  else if atMarker (g :: rest) then do
    let s ← s.closeAll.dropKey?
    let t := if g.char == '-' then Token.documentStart else .documentEnd
    return ⟨{ s.emit t with keyAllowed := false }, rest.drop 2, by simp⟩
  else
    match g.char with
    | '[' => here (s.openFlow? g .flowSequence)
    | '\x7b' => here (s.openFlow? g .flowMapping)
    | ']' => here (s.closeFlow? .flowSequenceEnd)
    | '\x7d' => here (s.closeFlow? .flowMappingEnd)
    | ',' => here s.separator?
    | '*' => s.node? g ((anchorName? rest).map (·.map .reference))
    | '&' => s.node? g ((anchorName? rest).map (·.map .anchor))
    | '!' => do
      let s ← s.saveKey? g
      let t ← tag? s.inFlow rest
      return t.map fun t => { s.emit t with keyAllowed := false }
    | '\'' => s.node? g ((quoted? false rest).map (·.map (.scalar false <| String.ofList ·)))
    | '"' => s.node? g ((quoted? true rest).map (·.map (.scalar false <| String.ofList ·)))
    | c =>
      if c == '-' && atGap rest then here (s.mark? g .blockSequence .item true)
      else if c == '?' && (s.inFlow || atGap rest) then here (s.mark? g .blockMapping .key (!s.inFlow))
      else if c == ':' && (s.inFlow || atGap rest) then here (s.value? g)
      else if c == '|' && !s.inFlow then s.block? true rest
      else if c == '>' && !s.inFlow then s.block? false rest
      else if s.startsPlain c rest then s.plain? g rest
      else none

end Scanner

/-- Skips blanks, comments and breaks, and tells whether a key may stand behind them. Outside of flow
collections a tab may not stand where a key may. -/
def skipGaps (inFlow keyAllowed : Bool) (gs : Glyphs) : Cut gs.length Bool Glyph :=
  let blanks := Cut.span (fun g => g.char == ' ' || ((inFlow || !keyAllowed) && g.char == '\t')) gs
  let line : Cut gs.length Unit Glyph :=
    if blanks.rest.head?.any (·.char == '#') then
      (blanks.andThen (Cut.span (!·.isBreak) blanks.rest)).map fun _ => ()
    else blanks.map fun _ => ()
  match _hl : line.rest with
  | [] => .all keyAllowed
  | g :: rest =>
    have hr : rest.length < gs.length := line.lt_of_rest_eq _hl
    if g.isBreak then (skipGaps inFlow (keyAllowed || !inFlow) rest).widen (Nat.le_of_lt hr)
    else line.map fun _ => keyAllowed
termination_by gs.length

/-- Scans the rest of a document; the tokens come in reverse. -/
def scanFrom? (s : Scanner) (gs : Glyphs) : Option (List Token) :=
  let gap := skipGaps s.inFlow s.keyAllowed gs
  let s := { s with keyAllowed := gap.value }
  match _hg : gap.rest with
  | [] => s.closeAll.dropKey?.map Scanner.tokens
  | g :: rest => do
    have hr : rest.length < gs.length := by
      have := gap.le; rw [_hg, List.length_cons] at this; omega
    let s ← s.dropStaleKeys? g
    let next ← (s.closeWhile (g.column < ·)).step? g rest
    have hn := next.le
    scanFrom? next.value next.rest
termination_by gs.length

def scan? (gs : Glyphs) : Option (List Token) := (scanFrom? {} gs).map List.reverse

end ReleaseAudit.Yaml
