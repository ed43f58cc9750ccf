import ReleaseAudit.Text.Cut

/-!
# Glyphs

The characters of a YAML document with their places in it. A line break is one glyph, whatever it is
written with; all of them but the line and paragraph separators are the same break.
-/

namespace ReleaseAudit.Yaml

structure Glyph where
  char : Char
  line : Nat
  column : Nat
  index : Nat
deriving DecidableEq, Repr

/-- Whether a document may contain the character. -/
def isPrintable (c : Char) : Bool :=
  let n := c.toNat
  n == 9 || n == 10 || n == 13 || (0x20 ≤ n && n ≤ 0x7e) || n == 0x85 ||
    (0xa0 ≤ n && n ≤ 0xd7ff) || (0xe000 ≤ n && n ≤ 0xfffd) || 0x10000 ≤ n

namespace Glyph

def isBreak (g : Glyph) : Bool := g.char == '\n' || g.char == '\u2028' || g.char == '\u2029'

def isBlank (g : Glyph) : Bool := g.char == ' ' || g.char == '\t'

def isGap (g : Glyph) : Bool := g.isBlank || g.isBreak

/-- The glyphs of a text whose first character has the given place. -/
def ofCharsAt (line column index : Nat) : List Char → List Glyph
  | [] => []
  | '\r' :: '\n' :: cs => ⟨'\n', line, column, index⟩ :: ofCharsAt (line + 1) 0 (index + 2) cs
  | c :: cs =>
    if c == '\n' || c == '\r' || c == '\u0085' then
      ⟨'\n', line, column, index⟩ :: ofCharsAt (line + 1) 0 (index + 1) cs
    else if c == '\u2028' || c == '\u2029' then
      ⟨c, line, column, index⟩ :: ofCharsAt (line + 1) 0 (index + 1) cs
    else ⟨c, line, column, index⟩ :: ofCharsAt line (column + 1) (index + 1) cs

/-- The glyphs of a document. A byte order mark at its start takes a column and is no glyph. -/
def ofDocument? (cs : List Char) : Option (List Glyph) :=
  if cs.all isPrintable then
    some <| match cs with
      | '\ufeff' :: rest => ofCharsAt 0 1 1 rest
      | cs => ofCharsAt 0 0 0 cs
  else none

end Glyph

abbrev Glyphs := List Glyph

/-- Whether a blank, a break or the end stands in front. -/
def atGap (gs : Glyphs) : Bool := gs.head?.all Glyph.isGap

/-- Whether the three marks that begin or end a document stand at the start of a line. -/
def atMarker (gs : Glyphs) : Bool :=
  match gs with
  | a :: b :: c :: rest =>
    a.column == 0 && (a.char == '-' || a.char == '.') && b.char == a.char && c.char == a.char &&
      atGap rest
  | _ => false

def charsOf (gs : Glyphs) : List Char := gs.map Glyph.char

end ReleaseAudit.Yaml
