import ReleaseAudit.Json.Parse
import ReleaseAudit.Source

/-!
# Data files

A JSON or YAML file as a data source, given as `NAME=PATH`.
-/

namespace ReleaseAudit

structure FileSource where
  name : String
  path : String
deriving DecidableEq, Repr

/-- A text that does not have the form `NAME=PATH`. -/
structure SpecError where
  spec : String
deriving DecidableEq, Repr

def SpecError.message (e : SpecError) : String := "Expected NAME=PATH, got '" ++ e.spec ++ "'"

namespace FileSource

def parse (spec : String) : Except SpecError FileSource :=
  match Text.cutAt? (· == '=') spec.toList with
  | none => .error ⟨spec⟩
  | some (name, path) =>
    let name := Text.trimChars name
    let path := Text.trimChars path
    if name.isEmpty || path.isEmpty then .error ⟨spec⟩
    else .ok ⟨String.ofList name, String.ofList path⟩

def isJson (s : FileSource) : Bool :=
  (Path.extension? s.path).any fun e => e.toList.map Char.toLower == "json".toList

/-- What the file says. -/
def read (s : FileSource) (t : FileTree) : Except LoadError Value :=
  (t.load .data (if s.isJson then Json.parse else Yaml.parseJson) s.path).map Json.toValue

def source {σ : Type} (s : FileSource) (t : FileTree) : DataSource σ where
  name := s.name
  load _ _ := fun state =>
    match s.read t with
    | .ok value => (.ok value, state)
    | .error e => (.error (.load e), state)

end FileSource

end ReleaseAudit
