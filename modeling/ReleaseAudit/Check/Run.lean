import ReleaseAudit.Check.Error
import ReleaseAudit.Check.File
import ReleaseAudit.Check.Status
import ReleaseAudit.Walk

/-!
# Running checks

A run evaluates the clauses of a check file in their order, and in place of each import the files that
it stands for. A file that imports itself, directly or not, ends the run.
-/

namespace ReleaseAudit

/-- The files of a run. There are finitely many of them. -/
structure CheckFiles where
  /-- The names by which files are told apart. -/
  known : List String
  /-- The name of the file at a path; none when there is no file. -/
  identify : (path : String) → Option { name // name ∈ known }
  load : (path : String) → Except LoadError CheckTree
  /-- The paths that match a pattern. -/
  matching : (pattern : String) → Except GlobError (List String)

namespace FileTree

/-- The paths of all regular files. -/
def filePaths (t : FileTree) : List String :=
  t.nodes.filterMap fun (l, node) =>
    match node with
    | .file _ => some (pathOf l)
    | .directory => none

/-- A file is told apart by its absolute path. -/
def checkFiles (t : FileTree) : CheckFiles where
  known := t.filePaths
  identify path :=
    if t.isFile path then
      (t.canonical? path).bind fun name => if h : name ∈ t.filePaths then some ⟨name, h⟩ else none
    else none
  load := CheckTree.load t
  matching := Glob.expand t

end FileTree

structure RunOptions where
  /-- The directory that relative import patterns start from. -/
  baseDirectory : Option String := none
  /-- The check file that the import `-` stands for. -/
  external : Option String := none
  errorPolicy : ErrorPolicy := .abort
  statusRule : StatusRule := .zeroIsOk
deriving DecidableEq, Repr

/-- A part of a run. It prints texts, also when it fails. -/
abbrev Run := ExceptT CheckError (StateM String)

namespace Run

def ofExcept {α ε : Type} (wrap : ε → CheckError) : Except ε α → Run α
  | .ok a => pure a
  | .error e => throw (wrap e)

/-- The value of an expression. -/
def evaluate [HostCode] (env : Environment) (source : String) : Run Value := do
  let e ← ofExcept (.compile source) (Expr.compile env source)
  let (result, text) := e.evaluate env
  modify (· ++ text)
  ofExcept (.evaluate source) result

/-- The status of a clause and the comment on it. -/
def judge [HostCode] (env : Environment) (rule : StatusRule) : Clause → Run (Status × String)
  | .validation text field source => do
    let ok ← ofExcept (.rule text) (Rule.check source (env.lookup field))
    return (.ofBool ok, if ok then "true" else "false")
  | .expression text => do
    let v ← evaluate env text
    return (rule.status v, v.display)

/-- The result of a clause of the step `name`. -/
def clause [HostCode] (env : Environment) (options : RunOptions) (name : String) (c : Clause) :
    Run CheckResult := fun printed =>
  match judge env options.statusRule c printed with
  | (.ok (status, comment), printed) =>
    (.ok { name, status, reference := c.text, comment }, printed)
  | (.error e, printed) =>
    if options.errorPolicy = .record && e.isRecordable then
      (.ok { name, status := .failed, reference := c.text, comment := e.message }, printed)
    else (.error e, printed)

def clauses [HostCode] (env : Environment) (options : RunOptions) (name : String) :
    List Clause → Run (List CheckResult)
  | [] => pure []
  | c :: cs => do
    let first ← clause env options name c
    return first :: (← clauses env options name cs)

/-- Whether a check file is run at all. -/
def isWanted [HostCode] (env : Environment) (path : String) (tree : CheckTree) : Run Bool := do
  let cond := Text.trim tree.cond
  if cond.isEmpty then return true
  match ← evaluate env cond with
  | .bool b => return b
  | v => throw (.condition path cond v)

/-- The import pattern as it is looked up. -/
def rooted (base : Option String) (pattern : String) : String :=
  match base with
  | some base =>
    if Path.isAbsolute pattern then pattern
    else
      let start := Text.dropEndWhile (· == '/') (Glob.escape base).toList
      String.ofList start ++ "/" ++ pattern
  | none => pattern

/-- The paths that an import stands for, those that match a pattern in the order of their parts. -/
def imported (files : CheckFiles) (options : RunOptions) (pattern : String) : Run (List String) :=
  let pattern := Text.trim pattern
  if pattern = "-" then
    match options.external with
    | some path => pure [path]
    | none => throw (.expansion pattern .noExternal)
  else ofExcept (fun e => .expansion pattern (.pattern e))
    ((files.matching (rooted options.baseDirectory pattern)).map Path.sort)

variable [HostCode] (env : Environment) (files : CheckFiles) (options : RunOptions)

mutual

/-- Runs the check file at a path while the files `opened`, the innermost first, are being run. An
imported file that cannot be read counts as empty. -/
def file (opened : List String) (isRoot : Bool) (path : String) : Run (List CheckResult) :=
  match files.identify path with
  | none => pure []
  | some ⟨name, hk⟩ =>
    if ho : name ∈ opened then throw (.cycle name opened.reverse)
    else
      match files.load path with
      | .error e => if isRoot then throw (.load path e) else pure []
      | .ok tree => do
        have := Walk.left_lt hk ho
        if ← isWanted env path tree then steps (name :: opened) tree.steps else return []
termination_by (Walk.left files.known opened, 0, 0)

/-- Runs the steps of the innermost open file. -/
def steps (opened : List String) : List Step → Run (List CheckResult)
  | [] => pure []
  | step :: rest => do
    let first ←
      if step.isImport then do importAll opened (← imported files options step.importPattern)
      else clauses env options step.name step.clauses
    return first ++ (← steps opened rest)
termination_by ss => (Walk.left files.known opened, 2, ss.length)

/-- Runs the check files that an import stands for. -/
def importAll (opened : List String) : List String → Run (List CheckResult)
  | [] => pure []
  | path :: rest => do
    let first ← file opened false path
    return first ++ (← importAll opened rest)
termination_by paths => (Walk.left files.known opened, 1, paths.length)

end

/-- Runs the check file at `path` and all that it imports. -/
def root (path : String) : Run (List CheckResult) := file env files options [] true path

end Run

end ReleaseAudit
