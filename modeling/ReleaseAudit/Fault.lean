import ReleaseAudit.Pattern.Parse
import ReleaseAudit.Span
import ReleaseAudit.Value

/-!
# Faults

The reasons why an operation on values has no result, and their wording. A failure is any error, as it
travels through an evaluation; an error that is about an expression is told apart from the others.
-/

namespace ReleaseAudit

inductive Fault where
  | notText (kind : Kind)
  | notNumeric (kind : Kind)
  | unreadableNumber (text : String)
  | noProperty (name : String) (kind : Kind)
  | listIndex (index : Float) (length : Nat)
  | stringIndex (index length : Nat)
  | notIndexable (kind index : Kind)
  | noMethod (name : String) (kind : Kind)
  | unknownMethod (name : String) (kind : Kind)
  | argumentCount (method : String) (expected found : Nat)
  | needsClosure (method : String)
  | incomparable (left right : Kind)
  | comparesNaN
  | notSearchable (needle haystack : Kind)
  | notAddable (left right : Kind)
  | needsNumbers (operator : String) (left right : Kind)
  | needsStrings (operator : String) (left right : Kind)
  | divisionByZero
  | moduloByZero
  | notNegatable (kind : Kind)
  | badPattern (source : String) (cause : PatternError)
  /-- A builtin function with any other number of arguments than one. -/
  | oneArgument (builtin : String) (found : Nat)
  | noLength (kind : Kind)
  | noKeys (kind : Kind)
  | splitArguments (found : Nat)
  | noMessage
  | notCommit
  /-- What a function of the embedding program says. -/
  | reported (text : String)
  /-- A host function failed. -/
  | failed (function : HostFunction) (cause : Fault)
  | unknownName (name : String)
  | uncalledBuiltin (name : String)
  | unknownFunction (name : String)
  | notCallable (kind : Kind)
  | strayClosure
deriving Repr

namespace Fault

def closureMethods : String := "filter, map, find, any, all or count"

def message : Fault → String
  | notText k => "cannot convert " ++ k.name ++ " to string"
  | notNumeric k => "cannot convert " ++ k.name ++ " to number"
  | unreadableNumber s => "cannot parse '" ++ s ++ "' as number"
  | noProperty n k => "cannot access property '" ++ n ++ "' on " ++ k.name
  | listIndex x len =>
    "index " ++ Decimal.write x ++ " out of bounds (list length " ++ toString len ++ ")"
  | stringIndex i len =>
    "index " ++ toString i ++ " out of bounds (string length " ++ toString len ++ ")"
  | notIndexable k i => "cannot index " ++ k.name ++ " with " ++ i.name
  | noMethod n k => "cannot call method '" ++ n ++ "' on " ++ k.name
  | unknownMethod n k => "unknown " ++ k.name ++ " method: " ++ n
  | argumentCount n expected found =>
    n ++ "() expects " ++ toString expected ++ " argument(s), got " ++ toString found
  | needsClosure n => n ++ "() requires a closure argument such as `x => ...`"
  | incomparable l r => "cannot compare " ++ l.name ++ " with " ++ r.name
  | comparesNaN => "cannot compare NaN"
  | notSearchable n h => "cannot search " ++ n.name ++ " in " ++ h.name
  | notAddable l r => "cannot add " ++ l.name ++ " and " ++ r.name
  | needsNumbers op l r =>
    "operator '" ++ op ++ "' needs numbers, got " ++ l.name ++ " and " ++ r.name
  | needsStrings op l r => "'" ++ op ++ "' needs strings, got " ++ l.name ++ " and " ++ r.name
  | divisionByZero => "division by zero"
  | moduloByZero => "modulo by zero"
  | notNegatable k => "cannot negate " ++ k.name
  | badPattern source cause => "invalid regex '" ++ source ++ "': " ++ cause.message
  | oneArgument n found => n ++ "() takes exactly 1 argument, got " ++ toString found
  | noLength k => "len() is not defined for " ++ k.name
  | noKeys k => "keys() requires a map, got " ++ k.name
  | splitArguments found => "split() takes exactly 2 arguments, got " ++ toString found
  | noMessage => "commit has no message"
  | notCommit => "expected a commit or a commit message"
  | reported text => text
  | failed f cause => f.name ++ "() failed: " ++ cause.message
  | unknownName n => "unknown name '" ++ n ++ "'"
  | uncalledBuiltin n => "builtin '" ++ n ++ "' must be called"
  | unknownFunction n => "unknown function '" ++ n ++ "'"
  | notCallable k => k.name ++ " is not callable"
  | strayClosure => "closures can only be passed to " ++ closureMethods

end Fault

/-- An error about an expression. Without a span it does not say about which part of it. -/
structure EvalError where
  fault : Fault
  span : Option Span
deriving Repr

def EvalError.message (e : EvalError) : String := e.fault.message

/-- Any error. -/
inductive Failure where
  | ordinary (fault : Fault)
  | evaluation (error : EvalError)
deriving Repr

namespace Failure

/-- An ordinary error becomes one about the expression at `span`. An error that is about an expression
already stays as it is, with its own span or with none. -/
def locate (span : Span) : Failure → Failure
  | ordinary fault => evaluation ⟨fault, some span⟩
  | evaluation error => evaluation error

/-- The failure of a host function. Its name is added to an ordinary error only. -/
def ofCall (f : HostFunction) : Failure → Failure
  | ordinary fault => ordinary (.failed f fault)
  | evaluation error => evaluation error

/-- The error about an expression that a failure is in the end, without a span if it is an ordinary
one. -/
def toEvalError : Failure → EvalError
  | ordinary fault => ⟨fault, none⟩
  | evaluation error => error

end Failure

end ReleaseAudit
