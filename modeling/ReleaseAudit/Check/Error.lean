import ReleaseAudit.Expr.Eval
import ReleaseAudit.Glob
import ReleaseAudit.LoadError
import ReleaseAudit.Rule

/-!
# Failures of runs

What ends a run of checks. The failures of a clause can be recorded as its result instead.
-/

namespace ReleaseAudit

/-- Why an import stands for no files. -/
inductive ExpansionFault where
  | noExternal
  | pattern (cause : GlobError)
deriving DecidableEq, Repr

def ExpansionFault.message : ExpansionFault → String
  | noExternal => "no external check file was supplied"
  | pattern cause => cause.message

inductive CheckError where
  | load (path : String) (cause : LoadError)
  | compile (expression : String) (cause : CompileError)
  | evaluate (expression : String) (cause : EvalError)
  | rule (clause : String) (cause : RuleError)
  | expansion (pattern : String) (fault : ExpansionFault)
  /-- The file at `path` imports itself by way of the files in `chain`, the outermost first. -/
  | cycle (path : String) (chain : List String)
  /-- A skip condition has a value of another kind than boolean. -/
  | condition (path cond : String) (found : Value)

namespace CheckError

def message : CheckError → String
  | load path _ => "cannot load check file " ++ path
  | compile expression cause => "cannot compile `" ++ expression ++ "`: " ++ cause.message
  | evaluate expression cause => "cannot evaluate `" ++ expression ++ "`: " ++ cause.message
  | rule clause cause => "invalid validation `" ++ clause ++ "`: " ++ cause.message
  | expansion pattern fault => "cannot expand import `" ++ pattern ++ "`: " ++ fault.message
  | cycle path _ => "import cycle: " ++ path ++ " is already being evaluated"
  | condition path cond found =>
    "skip condition `" ++ cond ++ "` in " ++ path ++ " evaluated to " ++ found.kind.name ++ " `" ++
      found.display ++ "`, expected a boolean"

/-- The messages of what caused the failure, outermost first. -/
def causes : CheckError → List String
  | load _ cause => cause.chain
  | compile _ cause => [cause.message]
  | evaluate _ cause => [cause.message]
  | rule _ cause => [cause.message]
  | expansion .. | cycle .. | condition .. => []

def chain (e : CheckError) : List String := e.message :: e.causes

def isRecordable : CheckError → Bool
  | compile .. | evaluate .. | rule .. => true
  | _ => false

end CheckError

end ReleaseAudit
