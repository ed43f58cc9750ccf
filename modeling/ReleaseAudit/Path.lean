import ReleaseAudit.Text.Search

/-!
# Paths

A path is a text. Its parts are what stands between the slashes; repeated slashes, a slash at the end
and a `.` behind the first part count for nothing.
-/

namespace ReleaseAudit

inductive PathPart where
  | root | here | up
  | name (text : List Char)
deriving DecidableEq, Repr

namespace PathPart

def rank : PathPart → Nat
  | root => 0
  | here => 1
  | up => 2
  | name _ => 3

def text : PathPart → List Char
  | root => ['/']
  | here => ['.']
  | up => ['.', '.']
  | name cs => cs

/-- Whether `p` comes strictly before `q`; names are ordered by code points. -/
def precedes (p q : PathPart) : Bool :=
  p.rank < q.rank || (p.rank == q.rank && String.ofList p.text < String.ofList q.text)

end PathPart

namespace Path

def isAbsolute (path : String) : Bool := path.toList.head? == some '/'

def ofSegment? (segment : List Char) : Option PathPart :=
  if segment.isEmpty || segment == ['.'] then none
  else if segment == ['.', '.'] then some .up
  else some (.name segment)

/-- The parts of a path; a `.` counts only at its start. -/
def parts (path : String) : List PathPart :=
  let segments := Text.splitBy (· == '/') path.toList
  let first : List PathPart :=
    if isAbsolute path then [.root] else if segments.head? == some ['.'] then [.here] else []
  first ++ segments.filterMap ofSegment?

def ofParts (parts : List PathPart) : String :=
  match parts with
  | .root :: rest => "/" ++ Text.intercalate "/" (rest.map (String.ofList ·.text))
  | parts => Text.intercalate "/" (parts.map (String.ofList ·.text))

/-- The path `child` seen from `base`; an absolute one does not depend on it. -/
def join (base child : String) : String :=
  if isAbsolute child || base.isEmpty then child
  else if base.toList.getLast? == some '/' then base ++ child
  else base ++ "/" ++ child

/-- The path without its last part. -/
def parent? (path : String) : Option String :=
  match (parts path).reverse with
  | [] | .root :: _ => none
  | _ :: rest => some (ofParts rest.reverse)

/-- The path and the paths of the directories around it, innermost first. -/
def upward (path : String) : List String :=
  let ps := parts path
  let outermost := if ps.head? == some .root then 1 else 0
  path :: ((List.range ps.length).reverse.filter (outermost ≤ ·)).map fun n => ofParts (ps.take n)

def fileName? (path : String) : Option (List Char) :=
  match (parts path).getLast? with
  | some (.name cs) => some cs
  | _ => none

/-- What follows the last point of the file name; a point at the start of the name does not count. -/
def extension? (path : String) : Option String := do
  let name ← fileName? path
  let (before, after) ← Text.cutAtLast? (· == '.') name
  if before.isEmpty then none else some (String.ofList after)

/-- Whether the parts of a path do not come behind those of another. -/
def partsLE : List PathPart → List PathPart → Bool
  | [], _ => true
  | _ :: _, [] => false
  | p :: ps, q :: qs => p.precedes q || (!q.precedes p && partsLE ps qs)

def sort (paths : List String) : List String :=
  paths.mergeSort fun a b => partsLE (parts a) (parts b)

end Path

end ReleaseAudit
