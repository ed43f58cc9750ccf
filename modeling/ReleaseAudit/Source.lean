import ReleaseAudit.Environment
import ReleaseAudit.History.Provenance
import ReleaseAudit.LoadError
import ReleaseAudit.Release

/-!
# Data sources

A data source contributes a value under a name of its own. It may read files or ask repositories, whose
state is `σ`, and knows both releases.
-/

namespace ReleaseAudit

inductive SourceError where
  | load (cause : LoadError)
  /-- The history of a component could not be resolved. -/
  | component (name : String) (cause : ResolveError)
deriving DecidableEq, Repr

def SourceError.chain : SourceError → List String
  | load cause => cause.chain
  | component name cause => ("Failed to resolve component " ++ name) :: cause.chain

structure DataSource (σ : Type) where
  name : String
  load : (old new : Release) → ExceptT SourceError (StateM σ) Value

inductive EnvironmentError where
  | collision (c : Collision)
  | source (name : String) (cause : SourceError)
deriving DecidableEq, Repr

def EnvironmentError.chain : EnvironmentError → List String
  | collision c => [c.message]
  | source name cause => ("data source `" ++ name ++ "` failed") :: cause.chain

namespace Environment

variable {σ : Type}

/-- The part of an environment that every run has: both releases, `println` and `split`. -/
def ofReleases (old new : Release) : Environment :=
  ⟨Dict.ofList [
    ("releases", .map (Dict.ofList [("old", old.toValue), ("new", new.toValue)])),
    ("println", .function .println),
    ("split", .function .split)]⟩

/-- Adds what a source contributes. A source whose name is taken is not loaded. -/
def addSource (old new : Release) (env : Environment) (source : DataSource σ) :
    ExceptT EnvironmentError (StateM σ) Environment := fun state =>
  if env.contains source.name then (.error (.collision ⟨source.name⟩), state)
  else
    match source.load old new state with
    | (.error e, state) => (.error (.source source.name e), state)
    | (.ok value, state) =>
      match env.insert source.name value with
      | .ok env => (.ok env, state)
      | .error c => (.error (.collision c), state)

/-- The environment of a run: what every run has, then the sources in their order, then further
values. -/
def build (old new : Release) (sources : List (DataSource σ)) (values : List (String × Value)) :
    ExceptT EnvironmentError (StateM σ) Environment := do
  let env ← sources.foldlM (addSource old new) (ofReleases old new)
  match env.insertAll values with
  | .ok env => return env
  | .error c => throw (.collision c)

end Environment

end ReleaseAudit
