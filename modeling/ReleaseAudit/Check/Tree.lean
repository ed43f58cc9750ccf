import ReleaseAudit.Text.Blank
import ReleaseAudit.Text.Search

/-!
# Check trees

A check tree is the content of a check file: a condition for running it at all, and steps. A step
either imports other check files or has a condition whose lines are clauses. A clause is an expression
or, when its second word is `valid:`, the validation of a name by a rule.
-/

namespace ReleaseAudit

inductive Clause where
  | validation (text field rule : String)
  | expression (text : String)
deriving DecidableEq, Repr

namespace Clause

def text : Clause → String
  | validation t _ _ | expression t => t

/-- The field and the rule of a validation. -/
def validation? (text : List Char) : Option (String × String) := do
  let (field, rest) ← Text.cutAt? Text.isBlank text
  let rule ← Text.stripPrefix? "valid:".toList (Text.trimStartChars rest)
  if rule.head?.all Text.isBlank then
    some (String.ofList field, String.ofList (Text.trimChars rule))
  else none

def isComment (text : List Char) : Bool :=
  Text.startsWith text ['#'] || Text.startsWith text ['/', '/']

/-- Blank lines and comments hold no clause. -/
def ofLine? (line : List Char) : Option Clause :=
  let text := Text.trimChars line
  if text.isEmpty || isComment text then none
  else
    match validation? text with
    | some (field, rule) => some (validation (String.ofList text) field rule)
    | none => some (expression (String.ofList text))

end Clause

structure Step where
  name : String := ""
  description : String := ""
  condition : String := ""
  output : String := ""
  kind : String := ""
  /-- A pattern of file names, or `-` for the check file given from outside. -/
  importPattern : String := ""
deriving DecidableEq, Repr

namespace Step

def isImport (s : Step) : Bool := !(Text.trimChars s.importPattern.toList).isEmpty

def clauses (s : Step) : List Clause :=
  (Text.splitBy (· == '\n') s.condition.toList).filterMap Clause.ofLine?

end Step

structure CheckTree where
  cond : String := ""
  steps : List Step := []
deriving DecidableEq, Repr

end ReleaseAudit
