import ReleaseAudit.Check.Run
import ReleaseAudit.Config
import ReleaseAudit.Git.Repository
import ReleaseAudit.Source.Commits
import ReleaseAudit.Source.File

/-!
# The gate

A gate lets a release pass by running checks on what is known about it: both releases, the commits
between them, and data files.
-/

namespace ReleaseAudit

/-- Why there are no results. -/
inductive GateError where
  | settings (cause : Malformed)
  | descriptor (cause : LoadError)
  /-- The release named by an argument could not be loaded. -/
  | release (path : String) (cause : LoadError)
  | data (cause : SpecError)
  | environment (cause : EnvironmentError)
  | check (cause : CheckError)
  | report (path : String) (cause : FileError)

namespace GateError

/-- The message and what caused it, outermost first. -/
def chain : GateError → List String
  | settings cause => Config.parseFailure cause
  | descriptor cause => cause.chain
  | release path cause => ("Failed to load release " ++ path) :: cause.chain
  | data cause => [cause.message]
  | environment cause => cause.chain
  | check cause => cause.chain
  | report path cause => ["Failed to write report to " ++ path, cause.message]

/-- The failed resolution behind the failure. -/
def resolution? : GateError → Option ResolveError
  | environment (.source _ (.component _ cause)) => some cause
  | _ => none

end GateError

structure Gate where
  config : Config := {}
  credentials : Credentials := {}
  data : List FileSource := []
  baseDirectory : Option String := none
deriving Repr

namespace Gate

variable {σ : Type}

/-- The commits come first, unless they are not wanted, then the data files. -/
def sources (g : Gate) (git : GitProgram σ) (t : FileTree) : List (DataSource σ) :=
  let resolve := GitRepository.resolve git g.credentials g.config.resolverOptions
  let commits := if g.config.gitEnabled then [commitSource resolve g.config.projectKey] else []
  commits ++ g.data.map (·.source t)

def environment (g : Gate) (git : GitProgram σ) (t : FileTree) (old new : Release) :
    ExceptT EnvironmentError (StateM σ) Environment :=
  Environment.build old new (g.sources git t) []

def runOptions (g : Gate) (checks : String) : RunOptions where
  baseDirectory := g.baseDirectory
  external := some checks
  errorPolicy := g.config.errorPolicy
  statusRule := g.config.statusRule

/-- Runs the check file `root`, or `checks` when there is no root; `checks` also stands for the import
`-`. The text is what the checks print. -/
def run [HostCode] (g : Gate) (git : GitProgram σ) (t : FileTree) (old new : Release) (checks : String)
    (root : Option String) : StateM σ (Except GateError (List CheckResult) × String) := do
  match ← (g.environment git t old new).run with
  | .error e => return (.error (.environment e), "")
  | .ok env =>
    let run := Run.root env t.checkFiles (g.runOptions checks) (root.getD checks)
    let (result, printed) := run.run ""
    return (result.mapError .check, printed)

end Gate

end ReleaseAudit
