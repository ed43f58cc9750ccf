import ReleaseAudit.Check.Tree
import ReleaseAudit.Load
import ReleaseAudit.Yaml.Decode

/-!
# Check files

A check tree is written in YAML. What a check file leaves out or sets to null is empty, and keys that
mean nothing are passed over; a key that means something stands once.
-/

namespace ReleaseAudit

open Yaml (Shape)

namespace Step

def shape : Shape Step := fun d node => do
  let fields ← Shape.fields d node
  let text (key : String) := Shape.member d fields key (Shape.option Shape.text) none
  return {
    name := (← text "name").getD ""
    description := (← text "description").getD ""
    condition := (← text "condition").getD ""
    output := (← text "output").getD ""
    kind := (← text "type").getD ""
    importPattern := (← text "import").getD "" }

end Step

namespace CheckTree

def shape : Shape CheckTree := fun d node => do
  let fields ← Shape.fields d node
  let cond ← Shape.member d fields "cond" (Shape.option Shape.text) none
  let steps ← Shape.member d fields "steps" (Shape.option (Shape.sequence Step.shape)) none
  return { cond := cond.getD "", steps := steps.getD [] }

/-- A text without a document is a tree without steps. -/
def ofYaml (text : String) : Except Malformed CheckTree :=
  if (Text.trimChars text.toList).isEmpty then .ok {} else shape.parse (.ok {}) text

def load (t : FileTree) (path : String) : Except LoadError CheckTree := t.load .checks ofYaml path

end CheckTree

end ReleaseAudit
