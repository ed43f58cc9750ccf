import ReleaseAudit.Text.Search

/-!
# Places in a source text

Lines and columns count from one, columns in characters; offsets count bytes from zero. A snippet
shows the line of a place, the lines around it, and a caret with a message below it.
-/

namespace ReleaseAudit

structure Position where
  line : Nat
  column : Nat
  offset : Nat
deriving DecidableEq, Repr, Inhabited

namespace Position

def origin : Position := ⟨1, 1, 0⟩

/-- The place behind the character `c`. -/
def advance (p : Position) (c : Char) : Position :=
  if c == '\n' then ⟨p.line + 1, 1, p.offset + c.utf8Size⟩
  else ⟨p.line, p.column + 1, p.offset + c.utf8Size⟩

def advanceAll (p : Position) (cs : List Char) : Position := cs.foldl advance p

end Position

/-- The line and column of the first byte, and the half-open range of offsets. -/
structure Span where
  line : Nat
  column : Nat
  start : Nat
  stop : Nat
deriving DecidableEq, Repr, Inhabited

namespace Span

def between (a b : Position) : Span := ⟨a.line, a.column, a.offset, b.offset⟩

/-- The first byte at `p`. -/
def firstByte (p : Position) : Span := ⟨p.line, p.column, p.offset, p.offset + 1⟩

/-- The least range that holds both spans. The column is that of `a` unless both share its line. -/
def merge (a b : Span) : Span where
  line := min a.line b.line
  column := if a.line == b.line then min a.column b.column else a.column
  start := min a.start b.start
  stop := max a.stop b.stop

end Span

namespace Snippet

def numbered (number : Nat) (line : String) : String := " " ++ toString number ++ " | " ++ line

def caret (column : Nat) (message : String) : String :=
  "   | " ++ String.ofList (List.replicate (column - 1) ' ') ++ "^ " ++ message

/-- The line before, the line itself, the caret and the line after. -/
def body (message : String) (before : Option String) (line : String) (after : Option String)
    (span : Span) : List String :=
  (before.map (numbered (span.line - 1))).toList ++
    [numbered span.line line, caret span.column message] ++
    (after.map (numbered (span.line + 1))).toList

/-- Shows `message` below the line of `span`; outside the text only the line's number is given. -/
def render (message source : String) (span : Span) : String :=
  let all := Text.lines source
  let index := span.line - 1
  match all[index]? with
  | none => message ++ " at line " ++ toString span.line
  | some line =>
    let before := if index = 0 then none else all[index - 1]?
    let head := "  --> line " ++ toString span.line ++ ":" ++ toString span.column
    Text.intercalate "\n"
      ([head, "   |"] ++ body message before line all[index + 1]? span ++ ["   |"])

end Snippet

end ReleaseAudit
