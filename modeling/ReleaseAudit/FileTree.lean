import ReleaseAudit.FileError
import ReleaseAudit.Path
import ReleaseAudit.Text.Blank

/-!
# File trees

Files and directories by their absolute locations, and a working directory that relative paths start
from. A path leads from directory to directory; a file is the end of it. There are no links, and every
file may be read and written.
-/

namespace ReleaseAudit

inductive FileNode where
  | directory
  | file (bytes : ByteArray)

/-- The names on the way from the root, outermost first. -/
abbrev Location := List String

structure FileTree where
  nodes : List (Location × FileNode)
  current : Location

namespace FileTree

/-- The root is always there. -/
def node? (t : FileTree) (l : Location) : Option FileNode :=
  if l.isEmpty then some .directory else t.nodes.lookup l

def isDirectoryAt (t : FileTree) (l : Location) : Bool :=
  match t.node? l with
  | some .directory => true
  | _ => false

/-- Follows the names of a path from the location `l`. -/
def follow (t : FileTree) (l : Location) : List (List Char) → Except FileError Location
  | [] => .ok l
  | segment :: rest =>
    match t.node? l with
    | none => .error .notFound
    | some (.file _) => .error .notDirectory
    | some .directory =>
      if segment.isEmpty || segment == ['.'] then follow t l rest
      else if segment == ['.', '.'] then follow t l.dropLast rest
      else follow t (l ++ [String.ofList segment]) rest

/-- The location that a path leads to. -/
def locate (t : FileTree) (path : String) : Except FileError Location := do
  if path.isEmpty then throw .notFound
  let start := if Path.isAbsolute path then [] else t.current
  let l ← t.follow start (Text.splitBy (· == '/') path.toList)
  match t.node? l with
  | some _ => return l
  | none => throw .notFound

def find (t : FileTree) (path : String) : Except FileError (Location × FileNode) := do
  let l ← t.locate path
  match t.node? l with
  | some node => return (l, node)
  | none => throw .notFound

def isPresent (t : FileTree) (path : String) : Bool := (t.locate path).isOk

def isFile (t : FileTree) (path : String) : Bool :=
  match t.find path with
  | .ok (_, .file _) => true
  | _ => false

def isDirectory (t : FileTree) (path : String) : Bool :=
  match t.find path with
  | .ok (_, .directory) => true
  | _ => false

def pathOf (l : Location) : String := "/" ++ Text.intercalate "/" l

/-- The absolute path of what a path leads to. -/
def canonical? (t : FileTree) (path : String) : Option String :=
  match t.locate path with
  | .ok l => some (pathOf l)
  | .error _ => none

def readBytes (t : FileTree) (path : String) : Except FileError ByteArray := do
  match ← t.find path with
  | (_, .file bytes) => return bytes
  | (_, .directory) => throw .isDirectory

def readText (t : FileTree) (path : String) : Except FileError String := do
  match String.fromUTF8? (← t.readBytes path) with
  | some text => return text
  | none => throw .notText

/-- The names of what is in the directory at `l`. -/
def childNames (t : FileTree) (l : Location) : List String :=
  t.nodes.filterMap fun (l', _) =>
    if l'.length = l.length + 1 && l'.dropLast == l then l'.getLast? else none

def setNode (t : FileTree) (l : Location) (node : FileNode) : FileTree :=
  { t with nodes := t.nodes.filter (·.1 != l) ++ [(l, node)] }

/-- The beginnings of a location, shortest first. -/
def beginnings (l : Location) : List Location := (List.range (l.length + 1)).map l.take

/-- Makes the directory at `l` and those around it, where nothing is yet. -/
def makeDirectory (t : FileTree) (l : Location) : FileTree :=
  ((beginnings l).filter fun b => (t.node? b).isNone).foldl (fun t b => t.setNode b .directory) t

def addFile (t : FileTree) (l : Location) (bytes : ByteArray) : FileTree :=
  (t.makeDirectory l.dropLast).setNode l (.file bytes)

/-- Writes a file into a directory that exists. A path that ends in a slash is that of a directory. -/
def writeBytes (t : FileTree) (path : String) (bytes : ByteArray) : Except FileError FileTree := do
  if path.isEmpty then throw .notFound
  let start := if Path.isAbsolute path then [] else t.current
  let names := Text.dropEndWhile List.isEmpty (Text.splitBy (· == '/') path.toList)
  let l ← t.follow start names
  if t.isDirectoryAt l || path.toList.getLast? == some '/' then throw .isDirectory
  return t.setNode l (.file bytes)

end FileTree

end ReleaseAudit
