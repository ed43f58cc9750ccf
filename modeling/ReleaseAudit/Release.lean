import ReleaseAudit.Load
import ReleaseAudit.Text.Blank
import ReleaseAudit.Yaml.Decode

/-!
# Releases

A release has a name and components, each a reference `url@revision`. All else that its descriptor
says is kept for the checks.
-/

namespace ReleaseAudit

open Yaml (Shape)

structure Release where
  name : String := ""
  components : List String := []
  extra : Dict Json := []
deriving Inhabited, Repr

namespace Release

def nameKey : String := "release"

def componentsKey : String := "components"

def isExtra (key : String) : Bool := key != nameKey && key != componentsKey

/-- The keys of mappings inside the additional data are texts. -/
def shape : Shape Release := fun d node => do
  let fields ← Shape.fields d node
  let name ← Shape.member d fields nameKey Shape.text ""
  let components ← Shape.member d fields componentsKey (Shape.sequence Shape.text) []
  let extra ← (fields.filter fun (key, _) => isExtra key).mapM fun (key, node) => do
    return (key, ← Shape.json true (Shape.maxDepth - 1) d node)
  return { name, components, extra := Dict.ofList extra }

/-- A text without a document describes an empty release. -/
def ofYaml (text : String) : Except Malformed Release :=
  if (Text.trimChars text.toList).isEmpty then .ok {} else shape.parse (.ok {}) text

def load (t : FileTree) (path : String) : Except LoadError Release := t.load .release ofYaml path

/-- A release as checks see it. -/
def toValue (r : Release) : Value :=
  let extra : Dict Value := r.extra.map fun (key, j) => (key, j.toValue)
  .map ((extra.insert nameKey (.string r.name)).insert componentsKey (.ofStrings r.components))

end Release

end ReleaseAudit
