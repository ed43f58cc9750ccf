import ReleaseAudit.Expr.Eval

/-!
# Lexical scope

The meaning of an expression without a machine: a name stands for what the innermost closure around
it, the environment or the builtins say, and the body of a closure is evaluated for each item in the
scope of the closure, with the parameter standing for this item.
-/

namespace ReleaseAudit

/-- What a name stands for. -/
inductive Binding where
  | value (v : Value)
  | builtin (b : Builtin)

/-- The names that have a meaning. -/
abbrev Scope := String → Option Binding

namespace Scope

/-- Outside of all closures. A name of the environment hides a builtin. -/
def outermost (env : Environment) : Scope := fun n ↦
  match env.get? n with
  | some v => some (.value v)
  | none => (Builtin.ofName? n).map .builtin

/-- A parameter hides whatever else has its name. -/
def extend (scope : Scope) (param : String) (v : Value) : Scope := fun n ↦
  if n = param then some (.value v) else scope n

/-- Below the parameters `locals`, the innermost first. -/
def around (env : Environment) : List (String × Value) → Scope
  | [] => outermost env
  | (param, v) :: locals => (around env locals).extend param v

theorem around_apply (env : Environment) (locals : List (String × Value)) (n : String) :
    around env locals n =
      match locals.lookup n <|> env.get? n with
      | some v => some (.value v)
      | none => (Builtin.ofName? n).map .builtin := by
  induction locals with
  | nil => rfl
  | cons first locals ih =>
    obtain ⟨param, v⟩ := first
    by_cases hparam : n = param
    · simp [around, extend, hparam]
    · have hbeq : (n == param) = false := by simpa using hparam
      simp only [around, extend, hparam, if_false, List.lookup_cons, hbeq, ih]

end Scope

/-- A result or a failure, and the text printed on the way. -/
@[ext]
structure Meaning (α : Type) where
  result : Except Failure α
  text : String

namespace Meaning

variable {α β γ : Type}

instance : Monad Meaning where
  pure a := ⟨.ok a, ""⟩
  bind x next :=
    match x with
    | ⟨.ok a, text⟩ => ⟨(next a).result, text ++ (next a).text⟩
    | ⟨.error e, text⟩ => ⟨.error e, text⟩

theorem ok_bind (a : α) (text : String) (next : α → Meaning β) :
    Meaning.mk (.ok a) text >>= next = ⟨(next a).result, text ++ (next a).text⟩ := rfl

theorem map_id (x : Meaning α) : id <$> x = x := by
  obtain ⟨_ | a, text⟩ := x
  · rfl
  · exact Meaning.ext rfl String.append_empty

theorem pure_bind (a : α) (next : α → Meaning β) : pure a >>= next = next a :=
  Meaning.ext rfl String.empty_append

theorem bind_assoc (x : Meaning α) (next : α → Meaning β) (last : β → Meaning γ) :
    x >>= next >>= last = x >>= fun a ↦ next a >>= last := by
  obtain ⟨_ | a, text⟩ := x
  · rfl
  rw [ok_bind, ok_bind]
  obtain ⟨_ | b, more⟩ := next a
  · rfl
  · exact Meaning.ext rfl String.append_assoc

instance : LawfulMonad Meaning := LawfulMonad.mk' Meaning map_id pure_bind bind_assoc

def fail (span : Span) (fault : Fault) : Meaning α := ⟨.error (.evaluation ⟨fault, some span⟩), ""⟩

def settle (span : Span) : Except Failure α → Meaning α
  | .ok a => pure a
  | .error failure => ⟨.error (failure.locate span), ""⟩

def located (span : Span) (result : Except Fault α) : Meaning α :=
  settle span (result.mapError .ordinary)

def print (text : String) : Meaning Unit := ⟨.ok (), text⟩

variable [HostCode]

def callHost (span : Span) (f : HostFunction) (args : List Value) : Meaning Value := do
  let (result, text) := f.call args
  print text
  settle span result

def callValue (span : Span) (callee : Value) (args : List Value) : Meaning Value :=
  match callee with
  | .function f => callHost span f args
  | v => fail span (.notCallable v.kind)

def callMethod (span : Span) (v : Value) (name : String) (args : List Value) : Meaning Value :=
  match v.hostMethod? name with
  | some f => callHost span f args
  | none => located span (v.method name args)

end Meaning

namespace ClosureMethod

/-- The items on which the closure was true. -/
def kept (items results : List Value) : List Value :=
  ((items.zip results).filter fun (_, w) ↦ w.isTruthy).map Prod.fst

/-- A method with a closure, the closure being the function `body`. -/
def meaning (method : ClosureMethod) (body : Value → Meaning Value)
    (items : List Value) : Meaning Value :=
  let holds (v : Value) : Meaning Bool := return (← body v).isTruthy
  match method with
  | .filter => return .list (kept items (← items.mapM body))
  | .map => return .list (← items.mapM body)
  | .find => return (← items.findM? holds).getD .null
  | .any => return .bool (← items.anyM holds)
  | .all => return .bool (← items.allM holds)
  | .count => return .ofLength (kept items (← items.mapM body)).length

end ClosureMethod

namespace Expr

variable [HostCode]

mutual

/-- The meaning of an expression in a scope. -/
def meaning (scope : Scope) : Expr → Meaning Value
  | null _ => return .null
  | bool _ b => return .bool b
  | number _ x => return .number x
  | string _ s => return .string s
  | name span n =>
    match scope n with
    | some (.value v) => return v
    | some (.builtin _) => Meaning.fail span (.uncalledBuiltin n)
    | none => Meaning.fail span (.unknownName n)
  | list _ items => return .list (← meanings scope items)
  | map _ entries => return .map (← entryMeanings scope [] entries)
  | property span receiver n => do
    let v ← meaning scope receiver
    Meaning.located span (v.property n)
  | index span receiver key => do
    let v ← meaning scope receiver
    let k ← meaning scope key
    Meaning.located span (v.index k)
  | method _ receiver n [closure s param body] => do
    let v ← meaning scope receiver
    match ClosureMethod.ofName? n, v with
    | some m, .list items => m.meaning (fun item ↦ meaning (scope.extend param item) body) items
    | _, _ => Meaning.fail s .strayClosure
  | method span receiver n args => do
    let v ← meaning scope receiver
    let values ← meanings scope args
    Meaning.callMethod span v n values
  | call span (name _ n) args => do
    let values ← meanings scope args
    match scope n with
    | some (.value callee) => Meaning.callValue span callee values
    | some (.builtin b) => Meaning.located span (b.call values)
    | none => Meaning.fail span (.unknownFunction n)
  | call span function args => do
    let callee ← meaning scope function
    let values ← meanings scope args
    Meaning.callValue span callee values
  | closure span _ _ => Meaning.fail span .strayClosure
  | unary _ .not operand => return .bool !(← meaning scope operand).isTruthy
  | unary span .minus operand => do
    let v ← meaning scope operand
    Meaning.located span v.negated
  | binary _ .and left right => do
    if !(← meaning scope left).isTruthy then return .bool false
    return .bool (← meaning scope right).isTruthy
  | binary _ .or left right => do
    if (← meaning scope left).isTruthy then return .bool true
    return .bool (← meaning scope right).isTruthy
  | binary span op left right => do
    let v ← meaning scope left
    let w ← meaning scope right
    Meaning.located span (Value.binary op v w)
  | conditional _ condition onTrue onFalse => do
    if (← meaning scope condition).isTruthy then meaning scope onTrue else meaning scope onFalse

def meanings (scope : Scope) : List Expr → Meaning (List Value)
  | [] => return []
  | e :: es => do
    let v ← meaning scope e
    return v :: (← meanings scope es)

/-- The entries of a map literal added to `d`; of two with the same key the later one counts. -/
def entryMeanings (scope : Scope) (d : Dict Value) : List (String × Expr) → Meaning (Dict Value)
  | [] => return d
  | (k, e) :: rest => do
    let v ← meaning scope e
    entryMeanings scope (d.insert k v) rest

end

/-! ## Calls

A method that is given a closure, and a call of a name, are evaluated in their own ways. -/

omit [HostCode] in
theorem eq_closure_or_ne (args : List Expr) : (∃ s param body, args = [closure s param body]) ∨
    ∀ s param body, args ≠ [closure s param body] := by
  by_cases h : ∃ s param body, args = [closure s param body]
  · exact .inl h
  · exact .inr fun s param body heq ↦ h ⟨s, param, body, heq⟩

end Expr

end ReleaseAudit
