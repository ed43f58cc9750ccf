import ReleaseAudit.Value

/-!
# Results of checks

A check ends with a status. The value of an expression is turned into one by a status rule: a boolean
is its own answer, any other value is judged by whether it is the zero of its kind.
-/

namespace ReleaseAudit

inductive Status where
  | ok | warn | failed
deriving DecidableEq, Repr

namespace Status

def ofBool (ok : Bool) : Status := if ok then .ok else .failed

def text : Status → String
  | ok => "OK"
  | warn => "Warn"
  | failed => "Failed"

end Status

inductive StatusRule where
  | zeroIsOk | truthy
deriving DecidableEq, Repr

/-- What happens to a clause that cannot be compiled, evaluated or validated: it ends the run, or it
fails and the run goes on. -/
inductive ErrorPolicy where
  | abort | record
deriving DecidableEq, Repr

def StatusRule.status (rule : StatusRule) (v : Value) : Status :=
  match v, rule with
  | .bool b, _ => .ofBool b
  | v, zeroIsOk => .ofBool v.isZero
  | v, truthy => .ofBool !v.isZero

/-- The outcome of one clause. The reference is the text of the clause. -/
structure CheckResult where
  name : String
  status : Status
  reference : String
  comment : String
deriving DecidableEq, Repr

end ReleaseAudit
