import ReleaseAudit.Builtin
import ReleaseAudit.Environment
import ReleaseAudit.Expr.Parse
import ReleaseAudit.Value.Call

/-!
# Compiling and evaluating expressions

Compiling parses an expression and looks up its free names. Evaluation keeps a stack of the
parameters of the closures it is in, and collects what host functions print. A fault is reported at
the node whose own operation failed, unless a host function says something else.
-/

namespace ReleaseAudit

inductive CompileError where
  | parse (cause : ParseError)
  | unknownName (name : String) (span : Span)
deriving DecidableEq, Repr

/-- The parameters in force, innermost first, and the text printed so far. -/
structure Machine where
  locals : List (String × Value)
  printed : String

/-- A computation that may fail; its machine is kept in either case. -/
abbrev Eval := ExceptT Failure (StateM Machine)

namespace Eval

def fail {α : Type} (span : Span) (fault : Fault) : Eval α := throw (.evaluation ⟨fault, some span⟩)

/-- The result of something done at `span`. -/
def settle {α : Type} (span : Span) : Except Failure α → Eval α
  | .ok a => pure a
  | .error failure => throw (failure.locate span)

/-- The result of an operation on values at `span`. Its errors are ordinary ones. -/
def located {α : Type} (span : Span) (result : Except Fault α) : Eval α :=
  settle span (result.mapError .ordinary)

def print (text : String) : Eval Unit := modify fun m => { m with printed := m.printed ++ text }

/-- Runs `act` below a parameter that has no value yet, and drops the parameter however `act`
ends. -/
def withParameter {α : Type} (name : String) (act : Eval α) : Eval α := fun m =>
  let (result, m) := act { m with locals := (name, .null) :: m.locals }
  (result, { m with locals := m.locals.tail })

/-- Sets the value of the innermost parameter. -/
def setParameter (value : Value) : Eval Unit := modify fun m =>
  match m.locals with
  | [] => m
  | (name, _) :: rest => { m with locals := (name, value) :: rest }

/-- A parameter hides those around it and the names of the environment. -/
def resolve? (env : Environment) (name : String) : Eval (Option Value) := do
  let m ← get
  return m.locals.lookup name <|> env.get? name

variable [HostCode]

def callHost (span : Span) (f : HostFunction) (args : List Value) : Eval Value := do
  let (result, text) := f.call args
  print text
  settle span result

/-- Only functions can be called. -/
def callValue (span : Span) (callee : Value) (args : List Value) : Eval Value :=
  match callee with
  | .function f => callHost span f args
  | v => fail span (.notCallable v.kind)

/-- A method without a closure; a host function is run with the arguments. -/
def callMethod (span : Span) (v : Value) (name : String) (args : List Value) : Eval Value :=
  match v.hostMethod? name with
  | some f => callHost span f args
  | none => located span (v.method name args)

end Eval

namespace Value

def addition : Value → Value → Except Fault Value
  | number x, number y => .ok (number (x + y))
  | string s, w => .ok (string (s ++ w.display))
  | v, string t => .ok (string (v.display ++ t))
  | list vs, list ws => .ok (list (vs ++ ws))
  | v, w => .error (.notAddable v.kind w.kind)

def arithmetic (op : BinaryOp) (f : Float → Float → Except Fault Float) (v w : Value) :
    Except Fault Value :=
  match v, w with
  | number x, number y => (f x y).map number
  | _, _ => .error (.needsNumbers op.symbol v.kind w.kind)

def ordering (test : Ordering → Bool) (v w : Value) : Except Fault Value :=
  (v.compare w).map fun o => bool (test o)

def textTest (op : BinaryOp) (f : String → String → Except Fault Bool) (v w : Value) :
    Except Fault Value :=
  match v, w with
  | string s, string t => (f s t).map bool
  | _, _ => .error (.needsStrings op.symbol v.kind w.kind)

def negated (v : Value) : Except Fault Value :=
  match v with
  | number x => .ok (number (-x))
  | _ => .error (.notNegatable v.kind)

/-- The value of an operator on the values of both of its operands. -/
def binary (op : BinaryOp) (v w : Value) : Except Fault Value :=
  match op with
  | .add => addition v w
  | .sub => arithmetic op (fun x y => .ok (x - y)) v w
  | .mul => arithmetic op (fun x y => .ok (x * y)) v w
  | .div => arithmetic op (fun x y => if y == 0 then .error .divisionByZero else .ok (x / y)) v w
  | .mod =>
    arithmetic op
      (fun x y => if y == 0 then .error .moduloByZero else .ok (Decimal.remainder x y)) v w
  | .eq => .ok (bool (equals v w))
  | .ne => .ok (bool (!equals v w))
  | .lt => ordering Ordering.isLT v w
  | .le => ordering Ordering.isLE v w
  | .gt => ordering Ordering.isGT v w
  | .ge => ordering Ordering.isGE v w
  | .and => .ok (bool (v.isTruthy && w.isTruthy))
  | .or => .ok (bool (v.isTruthy || w.isTruthy))
  | .in => (w.holds v).map bool
  | .notIn => (w.holds v).map fun b => bool !b
  | .contains => (v.holds w).map bool
  | .startsWith => textTest op (fun s t => .ok (Text.startsWith s.toList t.toList)) v w
  | .endsWith => textTest op (fun s t => .ok (Text.endsWith s.toList t.toList)) v w
  | .matches => textTest op matchesPattern v w

end Value

/-- What the methods with a closure do with its results. -/
inductive ClosureMethod where
  | filter | map | find | any | all | count
deriving DecidableEq, Repr

namespace ClosureMethod

def ofName? : String → Option ClosureMethod
  | "filter" => some filter
  | "map" => some map
  | "find" => some find
  | "any" => some any
  | "all" => some all
  | "count" => some count
  | _ => none

def filterItems (body : Value → Eval Value) : List Value → Eval (List Value)
  | [] => pure []
  | v :: vs => do
    let kept := (← body v).isTruthy
    let rest ← filterItems body vs
    return if kept then v :: rest else rest

def mapItems (body : Value → Eval Value) : List Value → Eval (List Value)
  | [] => pure []
  | v :: vs => do
    let w ← body v
    return w :: (← mapItems body vs)

/-- The number of items on which the closure is true, added to `n`. -/
def countItems (body : Value → Eval Value) (n : Nat) : List Value → Eval Nat
  | [] => pure n
  | v :: vs => do
    if (← body v).isTruthy then countItems body (n + 1) vs else countItems body n vs

/-- The first item on which the truth of the closure is `wanted`; later items are not looked at. -/
def firstItem (wanted : Bool) (body : Value → Eval Value) : List Value → Eval (Option Value)
  | [] => pure none
  | v :: vs => do
    if (← body v).isTruthy == wanted then return some v
    else firstItem wanted body vs

def run (m : ClosureMethod) (body : Value → Eval Value) (items : List Value) : Eval Value :=
  match m with
  | filter => return .list (← filterItems body items)
  | map => return .list (← mapItems body items)
  | find => return (← firstItem true body items).getD .null
  | any => return .bool (← firstItem true body items).isSome
  | all => return .bool (← firstItem false body items).isNone
  | count => return .ofLength (← countItems body 0 items)

end ClosureMethod

namespace Expr

section Evaluation

variable [HostCode]

mutual

def eval (env : Environment) : Expr → Eval Value
  | null _ => return .null
  | bool _ b => return .bool b
  | number _ x => return .number x
  | string _ s => return .string s
  | name span n => do
    match ← Eval.resolve? env n with
    | some v => return v
    | none =>
      Eval.fail span (if (Builtin.ofName? n).isSome then .uncalledBuiltin n else .unknownName n)
  | list _ items => return .list (← evalItems env items)
  | map _ entries => return .map (← evalEntries env [] entries)
  | property span receiver n => do
    let v ← eval env receiver
    Eval.located span (v.property n)
  | index span receiver key => do
    let v ← eval env receiver
    let k ← eval env key
    Eval.located span (v.index k)
  | method span receiver n [closure s param body] => do
    let v ← eval env receiver
    match ClosureMethod.ofName? n, v with
    | some m, .list items =>
      Eval.withParameter param <|
        m.run (fun item => do Eval.setParameter item; eval env body) items
    | _, v => do
      let values ← evalItems env [closure s param body]
      Eval.callMethod span v n values
  | method span receiver n args => do
    let v ← eval env receiver
    let values ← evalItems env args
    Eval.callMethod span v n values
  | call span (name _ n) args => do
    match ← Eval.resolve? env n with
    | some callee =>
      let values ← evalItems env args
      Eval.callValue span callee values
    | none =>
      let values ← evalItems env args
      match Builtin.ofName? n with
      | some b => Eval.located span (b.call values)
      | none => Eval.fail span (.unknownFunction n)
  | call span function args => do
    let callee ← eval env function
    let values ← evalItems env args
    Eval.callValue span callee values
  | closure span _ _ => Eval.fail span .strayClosure
  | unary _ .not operand => return .bool !(← eval env operand).isTruthy
  | unary span .minus operand => do
    let v ← eval env operand
    Eval.located span v.negated
  | binary _ .and left right => do
    if !(← eval env left).isTruthy then return .bool false
    return .bool (← eval env right).isTruthy
  | binary _ .or left right => do
    if (← eval env left).isTruthy then return .bool true
    return .bool (← eval env right).isTruthy
  | binary span op left right => do
    let v ← eval env left
    let w ← eval env right
    Eval.located span (Value.binary op v w)
  | conditional _ condition onTrue onFalse => do
    if (← eval env condition).isTruthy then eval env onTrue else eval env onFalse

def evalItems (env : Environment) : List Expr → Eval (List Value)
  | [] => return []
  | e :: es => do
    let v ← eval env e
    return v :: (← evalItems env es)

/-- The entries of a map literal added to `d`; of two with the same key the later one counts. -/
def evalEntries (env : Environment) (d : Dict Value) : List (String × Expr) → Eval (Dict Value)
  | [] => return d
  | (k, e) :: rest => do
    let v ← eval env e
    evalEntries env (d.insert k v) rest

end

theorem eval_method (env : Environment) (span : Span) (receiver : Expr) (n : String)
    (args : List Expr) :
    eval env (method span receiver n args) = (do
      let v ← eval env receiver
      match ClosureMethod.ofName? n, v, args with
      | some m, .list items, [closure _ param body] =>
        Eval.withParameter param <|
          m.run (fun item => do Eval.setParameter item; eval env body) items
      | _, v, args => do
        let values ← evalItems env args
        Eval.callMethod span v n values) := by
  by_cases hargs : ∃ s param body, args = [closure s param body]
  · obtain ⟨s, param, body, rfl⟩ := hargs
    rw [eval]
    refine bind_congr fun v => ?_
    cases ClosureMethod.ofName? n <;> cases v <;> rfl
  · have hne (s : Span) (param : String) (body : Expr) : args ≠ [closure s param body] :=
      fun heq => hargs ⟨s, param, body, heq⟩
    rw [eval]
    · refine bind_congr fun v => ?_
      split
      · exact absurd rfl (hne _ _ _)
      · rfl
    · exact hne

theorem eval_call (env : Environment) (span : Span) {function : Expr} (args : List Expr)
    (hname : ∀ s n, function ≠ name s n) :
    eval env (call span function args) = (do
      let callee ← eval env function
      let values ← evalItems env args
      Eval.callValue span callee values) := by
  rw [eval]
  exact hname

theorem eval_binary (env : Environment) (span : Span) {op : BinaryOp} (left right : Expr)
    (hand : op ≠ .and) (hor : op ≠ .or) :
    eval env (binary span op left right) = (do
      let v ← eval env left
      let w ← eval env right
      Eval.located span (Value.binary op v w)) := by
  rw [eval]
  · exact hand
  · exact hor

/-- The value of an expression outside all closures, and the text printed on the way. -/
def evaluate (env : Environment) (e : Expr) : Except EvalError Value × String :=
  let (result, m) := eval env e ⟨[], ""⟩
  (result.mapError Failure.toEvalError, m.printed)

end Evaluation

def isKnown (env : Environment) (name : String) : Bool :=
  env.contains name || (Builtin.ofName? name).isSome

/-- Parses an expression and refuses the first free name that is neither in the environment nor a
builtin. -/
def compile (env : Environment) (source : String) : Except CompileError Expr :=
  match parse source with
  | .error e => .error (.parse e)
  | .ok e =>
    match e.freeNames.find? fun (n, _) => !isKnown env n with
    | some (n, span) => .error (.unknownName n span)
    | none => .ok e

end Expr

namespace CompileError

def message : CompileError → String
  | parse e => e.message
  | unknownName n _ => "unknown name '" ++ n ++ "'"

def span? : CompileError → Option Span
  | parse e => e.span?
  | unknownName _ s => some s

end CompileError

end ReleaseAudit
