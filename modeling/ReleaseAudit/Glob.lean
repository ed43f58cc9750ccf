import ReleaseAudit.FileTree

/-!
# File name patterns

A pattern is matched part by part: `?` stands for a character, `*` for any text, a bracket for one
character of a set, and a part `**` for any number of directories. A part without any of these is
looked up by name.
-/

namespace ReleaseAudit

/-- One character or an inclusive range of characters. -/
structure GlobRange where
  first : Char
  last : Char
deriving DecidableEq, Repr

inductive GlobToken where
  | char (c : Char)
  | any
  | sequence
  | recursive
  | within (ranges : List GlobRange)
  | except (ranges : List GlobRange)
deriving DecidableEq, Repr

inductive GlobErrorKind where
  | wildcards | recursion | range
deriving DecidableEq, Repr

/-- What is wrong with a pattern, and at which character. -/
structure GlobError where
  position : Nat
  kind : GlobErrorKind
deriving DecidableEq, Repr

def GlobErrorKind.message : GlobErrorKind → String
  | wildcards => "wildcards are either regular `*` or recursive `**`"
  | recursion => "recursive wildcards must form a single path component"
  | range => "invalid range pattern"

def GlobError.message (e : GlobError) : String :=
  "Pattern syntax error near position " ++ toString e.position ++ ": " ++ e.kind.message

namespace Glob

/-! ## Reading patterns -/

/-- The set between brackets; a hyphen between two characters makes a range. -/
def readRanges : List Char → List GlobRange
  | a :: '-' :: b :: rest => ⟨a, b⟩ :: readRanges rest
  | a :: rest => ⟨a, a⟩ :: readRanges rest
  | [] => []

/-- The content of a bracket of at least one character, and what follows it. -/
def closeBracket? (cs : List Char) : Option (List Char × List Char) :=
  match cs with
  | [] => none
  | c :: rest => (Text.cutAt? (· == ']') rest).map fun (inner, behind) => (c :: inner, behind)

/-- The token of a bracket, read behind it. -/
def readBracket? (cs : List Char) : Option (GlobToken × List Char) :=
  match cs with
  | '!' :: rest => (closeBracket? rest).map fun (inner, behind) => (.except (readRanges inner), behind)
  | cs => (closeBracket? cs).map fun (inner, behind) => (.within (readRanges inner), behind)

theorem length_closeBracket?_lt {cs inner behind : List Char}
    (h : closeBracket? cs = some (inner, behind)) : behind.length < cs.length := by
  cases cs with
  | nil => simp [closeBracket?] at h
  | cons c rest =>
    simp only [closeBracket?, Option.map_eq_some_iff, Prod.mk.injEq, Prod.exists] at h
    obtain ⟨a, b, hcut, _, rfl⟩ := h
    have := Text.length_cutAt?_lt hcut
    simp only [List.length_cons]
    omega

theorem length_readBracket?_lt {cs behind : List Char} {t : GlobToken}
    (h : readBracket? cs = some (t, behind)) : behind.length < cs.length := by
  unfold readBracket? at h
  split at h <;>
  · simp only [Option.map_eq_some_iff, Prod.mk.injEq, Prod.exists] at h
    obtain ⟨_, _, hclose, _, rfl⟩ := h
    have := length_closeBracket?_lt hclose
    first
      | exact this
      | exact Nat.lt_succ_of_lt this

/-- Reads the tokens of a pattern, where `before` is the character in front of it and `position` the
number of characters in front of it. -/
def readTokens (before : Option Char) (position : Nat) (cs : List Char) :
    Except GlobError (List GlobToken) :=
  match cs with
  | [] => .ok []
  | '?' :: rest => do return .any :: (← readTokens (some '?') (position + 1) rest)
  | '*' :: '*' :: '*' :: _ => .error ⟨position + 2, .wildcards⟩
  | '*' :: '*' :: rest =>
    if before.all (· == '/') then
      match rest with
      | [] => .ok [.recursive]
      | '/' :: rest => do return .recursive :: (← readTokens (some '/') (position + 3) rest)
      | _ => .error ⟨position + 2, .recursion⟩
    else .error ⟨position - 1, .recursion⟩
  | '*' :: rest => do return .sequence :: (← readTokens (some '*') (position + 1) rest)
  | '[' :: rest =>
    match h : readBracket? rest with
    | some (t, behind) => do
      have := length_readBracket?_lt h
      return t :: (← readTokens (some ']') (position + 1 + (rest.length - behind.length)) behind)
    | none => .error ⟨position, .range⟩
  | c :: rest => do return .char c :: (← readTokens (some c) (position + 1) rest)
termination_by cs.length

def read (cs : List Char) : Except GlobError (List GlobToken) := readTokens none 0 cs

/-! ## Matching one name -/

def inRange (c : Char) (r : GlobRange) : Bool := r.first ≤ c && c ≤ r.last

def accepts : GlobToken → Char → Bool
  | .char d, c => c == d
  | .any, _ => true
  | .within ranges, c => ranges.any (inRange c)
  | .except ranges, c => !ranges.any (inRange c)
  | .sequence, _ | .recursive, _ => false

def isSequence : GlobToken → Bool
  | .sequence | .recursive => true
  | _ => false

/-- Whether a name as a whole matches; a sequence takes any number of characters. -/
def fits : List GlobToken → List Char → Bool
  | [], cs => cs.isEmpty
  | t :: ts, cs =>
    if isSequence t then (List.range (cs.length + 1)).any fun n => fits ts (cs.drop n)
    else
      match cs with
      | [] => false
      | c :: cs => accepts t c && fits ts cs

/-- The name that a part without wildcards stands for. -/
def literal? (ts : List GlobToken) : Option (List Char) :=
  ts.mapM fun t =>
    match t with
    | .char c => some c
    | _ => none

/-! ## Walking over directories -/

abbrev GlobPart := List GlobToken

def isRecursive (p : GlobPart) : Bool := p.contains .recursive

/-- The names in a directory as paths; those in `.` have no directory in front. -/
def children (t : FileTree) (path : String) : List String :=
  match t.find path with
  | .ok (l, .directory) => (t.childNames l).map fun n => if path == "." then n else Path.join path n
  | _ => []

/-- Repeated recursive parts are as good as one. -/
def collapse : List GlobPart → List GlobPart
  | p :: q :: rest =>
    if isRecursive p && isRecursive q then collapse (q :: rest) else p :: collapse (q :: rest)
  | parts => parts

/-- The path of `name` in the directory `path`. -/
def enter (path : String) (name : List Char) : String :=
  let name := String.ofList name
  if path == "." then name
  else if name.isEmpty && path.toList.getLast? != some '/' then path ++ "/"
  else Path.join path name

/-- The entries `.` and `..` match only a part that begins with a point. -/
def dotEntries (p : GlobPart) : List (List Char) :=
  if p.head? == some (.char '.') then [['.'], ['.', '.']].filter (fits p) else []

def nameFits (p : GlobPart) (path : String) : Bool := ((Path.fileName? path).map (fits p)).getD false

/-- Where to look, whether only directories count, and how deep the directories are nested. -/
structure Search where
  tree : FileTree
  directoriesOnly : Bool
  maxDepth : Nat

def Search.finish (s : Search) (path : String) : List String :=
  if s.directoriesOnly && !s.tree.isDirectory path then [] else [path]

mutual

/-- The matches of `parts` below `path`. Behind a recursive part the search goes down at most `depth`
directories. -/
def inside (s : Search) (parts : List GlobPart) (depth : Nat) (path : String) : List String :=
  match parts with
  | [] => []
  | p :: rest =>
    let onward (next : String) : List String :=
      if rest.isEmpty then s.finish next else inside s rest s.maxDepth next
    match literal? p with
    | some name =>
      let next := enter path name
      let there :=
        if name == ['.'] || name == ['.', '.'] then s.tree.isDirectory path
        else s.tree.isPresent next
      if there then onward next else []
    | none =>
      if s.tree.isDirectory path then
        (dotEntries p).flatMap (fun name => onward (Path.join path (String.ofList name))) ++
          match depth with
          | 0 => []
          | depth + 1 => (children s.tree path).flatMap (candidate s (p :: rest) depth)
      else []
termination_by (parts.length, depth, 0)

/-- The matches of `parts` at `path`, which lies in the directory where the first part is looked
for. -/
def candidate (s : Search) (parts : List GlobPart) (depth : Nat) (path : String) : List String :=
  match parts with
  | [] => []
  | p :: rest =>
    if isRecursive p then
      let here :=
        match rest with
        | [] => if s.tree.isDirectory path then [path] else []
        | q :: rest =>
          if !nameFits q path then []
          else if rest.isEmpty then s.finish path
          else inside s rest s.maxDepth path
      let below :=
        match depth with
        | 0 => []
        | depth + 1 => (children s.tree path).flatMap (candidate s (p :: rest) depth)
      here ++ below
    else if !nameFits p path then []
    else if rest.isEmpty then s.finish path
    else inside s rest s.maxDepth path
termination_by (parts.length, depth, 1)

end

/-- The parts of a pattern behind its root. A slash at the end adds none. -/
def segments (pattern : List Char) : List (List Char) :=
  let body := if pattern.head? == some '/' then pattern.drop 1 else pattern
  let all := Text.splitBy (· == '/') body
  if body.isEmpty then [[]]
  else if all.getLast? == some [] then all.dropLast
  else all

/-- The paths that a pattern matches, in the order of their parts. -/
def expand (tree : FileTree) (pattern : String) : Except GlobError (List String) := do
  let cs := pattern.toList
  let _ ← read cs
  let parts ← (segments cs).mapM read
  let search : Search := ⟨tree, cs.getLast? == some '/', tree.nodes.length + 1⟩
  let start := if cs.head? == some '/' then "/" else "."
  return Path.sort (inside search (collapse parts) search.maxDepth start)

/-- A pattern that matches exactly the given text. -/
def escape (text : String) : String :=
  String.ofList (text.toList.flatMap fun c =>
    if c == '?' || c == '*' || c == '[' || c == ']' then ['[', c, ']'] else [c])

end Glob

end ReleaseAudit
