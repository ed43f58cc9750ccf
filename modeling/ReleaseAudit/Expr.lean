import ReleaseAudit.Span

/-!
# Expressions

The abstract syntax of check expressions, every node with the span of its source text, and the names
that occur free in an expression.
-/

namespace ReleaseAudit

inductive UnaryOp where
  | not | minus
deriving DecidableEq, Repr

inductive BinaryOp where
  | add | sub | mul | div | mod
  | eq | ne | lt | le | gt | ge
  | and | or
  | in | notIn | contains | startsWith | endsWith | matches
deriving DecidableEq, Repr

namespace BinaryOp

def symbol : BinaryOp → String
  | add => "+"
  | sub => "-"
  | mul => "*"
  | div => "/"
  | mod => "%"
  | eq => "=="
  | ne => "!="
  | lt => "<"
  | le => "<="
  | gt => ">"
  | ge => ">="
  | and => "and"
  | or => "or"
  | .in => "in"
  | notIn => "not in"
  | contains => "contains"
  | startsWith => "startsWith"
  | endsWith => "endsWith"
  | «matches» => "matches"

end BinaryOp

inductive Expr where
  | null (span : Span)
  | bool (span : Span) (value : Bool)
  | number (span : Span) (value : Float)
  | string (span : Span) (value : String)
  | name (span : Span) (name : String)
  | list (span : Span) (items : List Expr)
  | map (span : Span) (entries : List (String × Expr))
  | property (span : Span) (receiver : Expr) (name : String)
  | index (span : Span) (receiver key : Expr)
  | method (span : Span) (receiver : Expr) (name : String) (args : List Expr)
  | call (span : Span) (function : Expr) (args : List Expr)
  | closure (span : Span) (param : String) (body : Expr)
  | unary (span : Span) (op : UnaryOp) (operand : Expr)
  | binary (span : Span) (op : BinaryOp) (left right : Expr)
  | conditional (span : Span) (condition onTrue onFalse : Expr)
deriving Inhabited, Repr

namespace Expr

def span : Expr → Span
  | null s | bool s _ | number s _ | string s _ | name s _ | list s _ | map s _ | property s _ _
  | index s _ _ | method s _ _ _ | call s _ _ | closure s _ _ | unary s _ _ | binary s _ _ _
  | conditional s _ _ _ => s

mutual

/-- The occurrences of names that no enclosing closure binds, in source order. -/
def freeOccurrences (bound : List String) : Expr → List (String × Span)
  | null _ | bool _ _ | number _ _ | string _ _ => []
  | name s n => if n ∈ bound then [] else [(n, s)]
  | list _ items => freeInItems bound items
  | map _ entries => freeInEntries bound entries
  | property _ receiver _ => freeOccurrences bound receiver
  | index _ receiver key => freeOccurrences bound receiver ++ freeOccurrences bound key
  | method _ receiver _ args => freeOccurrences bound receiver ++ freeInItems bound args
  | call _ function args => freeOccurrences bound function ++ freeInItems bound args
  | closure _ param body => freeOccurrences (param :: bound) body
  | unary _ _ operand => freeOccurrences bound operand
  | binary _ _ left right => freeOccurrences bound left ++ freeOccurrences bound right
  | conditional _ condition onTrue onFalse =>
    freeOccurrences bound condition ++ freeOccurrences bound onTrue ++
      freeOccurrences bound onFalse

def freeInItems (bound : List String) : List Expr → List (String × Span)
  | [] => []
  | e :: es => freeOccurrences bound e ++ freeInItems bound es

def freeInEntries (bound : List String) : List (String × Expr) → List (String × Span)
  | [] => []
  | (_, e) :: es => freeOccurrences bound e ++ freeInEntries bound es

end

/-- The first pair of every key that is not in `seen`. -/
def firstOfEach (seen : List String) : List (String × Span) → List (String × Span)
  | [] => []
  | (n, s) :: rest =>
    if n ∈ seen then firstOfEach seen rest else (n, s) :: firstOfEach (n :: seen) rest

/-- The free names, each with its first free occurrence. -/
def freeNames (e : Expr) : List (String × Span) := firstOfEach [] (freeOccurrences [] e)

end Expr

end ReleaseAudit
