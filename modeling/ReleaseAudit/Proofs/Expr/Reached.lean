import Mathlib.Logic.Relation
import ReleaseAudit.Proofs.Expr.Locals

/-!
# What an evaluation reaches

Which parts of an expression are evaluated, and on which machine: the operands in their order until one
fails, the branch that is taken, and the body of a closure once for each item until the method has its
answer. What is reached stands in the expression, below the parameters that are in force then.
-/

namespace ReleaseAudit

/-- The names of the parameters in force, innermost first. -/
def Machine.names (m : Machine) : List String := m.locals.map Prod.fst

theorem Machine.names_congr {m m' : Machine} (h : m.locals = m'.locals) : m.names = m'.names :=
  congrArg (List.map Prod.fst) h

namespace ClosureMethod

/-- Whether the next item is looked at after one on which the closure has the value `v`. -/
def goesOn : ClosureMethod → Value → Bool
  | find, v | any, v => !v.isTruthy
  | all, v => v.isTruthy
  | _, _ => true

/-- The closure is run on an item of the list, on the machine that the items before it left. -/
inductive Comes (method : ClosureMethod) (body : Value → Eval Value) :
    List Value → Machine → Value → Machine → Prop
  | first {v : Value} {vs : List Value} {m : Machine} : Comes method body (v :: vs) m v m
  | next {v v' w : Value} {vs : List Value} {m mid m' : Machine} :
      body v m = (.ok w, mid) → method.goesOn w → Comes method body vs mid v' m' →
      Comes method body (v :: vs) m v' m'

variable {method : ClosureMethod} {body : Value → Eval Value} {items : List Value}
  {m m' : Machine} {v : Value} {P : Machine → Prop}

theorem Comes.preserves (hbody : ∀ v, Eval.Preserves P (body v)) (hm : P m)
    (h : Comes method body items m v m') : P m' := by
  induction h with
  | first => exact hm
  | @next v _ _ _ m _ _ hrun _ _ ih =>
    have hmid := hbody v m hm
    rw [hrun] at hmid
    exact ih hmid

end ClosureMethod

namespace Expr

variable [HostCode]

/-- The expressions are evaluated in their order: `e` on `m'`, when those before it leave `m'`. -/
inductive EntersItem (env : Environment) : List Expr → Machine → Expr → Machine → Prop
  | first {e : Expr} {es : List Expr} {m : Machine} : EntersItem env (e :: es) m e m
  | next {e e' : Expr} {es : List Expr} {v : Value} {m mid m' : Machine} :
      eval env e m = (.ok v, mid) → EntersItem env es mid e' m' → EntersItem env (e :: es) m e' m'

/-- The method `n` of the value runs the closure that is its only argument on items. -/
def Loops (n : String) (v : Value) (args : List Expr) : Prop :=
  (ClosureMethod.ofName? n).isSome ∧ (∃ items, v = .list items) ∧
    ∃ s param body, args = [closure s param body]

/-- Evaluating the first expression on the first machine comes to evaluating a part of it, the second
one, on the second machine. The name of a called function is looked up and counts as evaluated. -/
inductive Enters (env : Environment) : Expr → Machine → Expr → Machine → Prop
  | item {s : Span} {items : List Expr} {e : Expr} {m m' : Machine} :
      EntersItem env items m e m' → Enters env (list s items) m e m'
  | entry {s : Span} {entries : List (String × Expr)} {e : Expr} {m m' : Machine} :
      EntersItem env (entries.map Prod.snd) m e m' → Enters env (map s entries) m e m'
  | propertyReceiver {s : Span} {receiver : Expr} {n : String} {m : Machine} :
      Enters env (property s receiver n) m receiver m
  | indexReceiver {s : Span} {receiver key : Expr} {m : Machine} :
      Enters env (index s receiver key) m receiver m
  | indexKey {s : Span} {receiver key : Expr} {v : Value} {m mid : Machine} :
      eval env receiver m = (.ok v, mid) → Enters env (index s receiver key) m key mid
  | methodReceiver {s : Span} {receiver : Expr} {n : String} {args : List Expr} {m : Machine} :
      Enters env (method s receiver n args) m receiver m
  | methodArg {s : Span} {receiver : Expr} {n : String} {args : List Expr} {v : Value} {e : Expr}
      {m mid m' : Machine} : eval env receiver m = (.ok v, mid) → ¬ Loops n v args →
      EntersItem env args mid e m' → Enters env (method s receiver n args) m e m'
  | methodClosure {s s' : Span} {receiver : Expr} {n param : String} {body : Expr}
      {cm : ClosureMethod} {items : List Value} {v : Value} {m mid m' : Machine} :
      eval env receiver m = (.ok (.list items), mid) → ClosureMethod.ofName? n = some cm →
      cm.Comes (fun item => do Eval.setParameter item; eval env body) items
        { mid with locals := (param, .null) :: mid.locals } v m' →
      Enters env (method s receiver n [closure s' param body]) m body (Eval.setParameter v m').2
  | callFunction {s : Span} {function : Expr} {args : List Expr} {m : Machine} :
      Enters env (call s function args) m function m
  | callArg {s : Span} {function : Expr} {args : List Expr} {v : Value} {e : Expr}
      {m mid m' : Machine} : (∀ s n, function ≠ name s n) → eval env function m = (.ok v, mid) →
      EntersItem env args mid e m' → Enters env (call s function args) m e m'
  | nameArg {s s' : Span} {n : String} {args : List Expr} {e : Expr} {m m' : Machine} :
      EntersItem env args m e m' → Enters env (call s (name s' n) args) m e m'
  | unaryOperand {s : Span} {op : UnaryOp} {operand : Expr} {m : Machine} :
      Enters env (unary s op operand) m operand m
  | binaryLeft {s : Span} {op : BinaryOp} {left right : Expr} {m : Machine} :
      Enters env (binary s op left right) m left m
  | binaryRight {s : Span} {op : BinaryOp} {left right : Expr} {v : Value} {m mid : Machine} :
      eval env left m = (.ok v, mid) → (op = .and → v.isTruthy) → (op = .or → ¬ v.isTruthy) →
      Enters env (binary s op left right) m right mid
  | condition {s : Span} {condition onTrue onFalse : Expr} {m : Machine} :
      Enters env (conditional s condition onTrue onFalse) m condition m
  | onTrue {s : Span} {condition onTrue onFalse : Expr} {v : Value} {m mid : Machine} :
      eval env condition m = (.ok v, mid) → v.isTruthy →
      Enters env (conditional s condition onTrue onFalse) m onTrue mid
  | onFalse {s : Span} {condition onTrue onFalse : Expr} {v : Value} {m mid : Machine} :
      eval env condition m = (.ok v, mid) → ¬ v.isTruthy →
      Enters env (conditional s condition onTrue onFalse) m onFalse mid

/-- Evaluating `e` on `m` reaches the evaluation of `e'` on `m'`. -/
def Reaches (env : Environment) (e : Expr) (m : Machine) (e' : Expr) (m' : Machine) : Prop :=
  Relation.ReflTransGen (fun p q : Expr × Machine ↦ Enters env p.1 p.2 q.1 q.2) (e, m) (e', m')

variable {env : Environment} {e e' : Expr} {es : List Expr} {m m' after : Machine}

/-! ## The parameters at what is reached -/

theorem locals_of_eval {result : Except Failure Value} (h : eval env e m = (result, after)) :
    after.locals = m.locals := by
  have hlocals := eval_holding env m.locals e m rfl
  rw [h] at hlocals
  exact hlocals

theorem EntersItem.mem (h : EntersItem env es m e m') : e ∈ es := by
  induction h with
  | first => exact List.mem_cons_self
  | next _ _ ih => exact List.mem_cons_of_mem _ ih

theorem EntersItem.locals_eq (h : EntersItem env es m e m') : m'.locals = m.locals := by
  induction h with
  | first => rfl
  | next hrun _ ih => rw [ih, locals_of_eval hrun]

/-- What is entered stands directly in the expression, below the same parameters, or it is the body of
a closure that stands there, below one more parameter. -/
theorem Enters.part (h : Enters env e m e' m') :
    Part e [] e' ∧ m'.names = m.names ∨
      ∃ s param, Part e [] (closure s param e') ∧ m'.names = param :: m.names := by
  cases h with
  | item hitem => exact .inl ⟨.item hitem.mem, Machine.names_congr hitem.locals_eq⟩
  | entry hentry =>
    obtain ⟨⟨k, _⟩, hmem, rfl⟩ := List.mem_map.1 hentry.mem
    exact .inl ⟨.entry hmem, Machine.names_congr hentry.locals_eq⟩
  | propertyReceiver => exact .inl ⟨.propertyReceiver, rfl⟩
  | indexReceiver => exact .inl ⟨.indexReceiver, rfl⟩
  | indexKey hrun => exact .inl ⟨.indexKey, Machine.names_congr (locals_of_eval hrun)⟩
  | methodReceiver => exact .inl ⟨.methodReceiver, rfl⟩
  | methodArg hrun _ harg =>
    have hlocals := harg.locals_eq.trans (locals_of_eval hrun)
    exact .inl ⟨.methodArg harg.mem, Machine.names_congr hlocals⟩
  | @methodClosure s s' receiver n param _ cm items v _ mid m' hrun hcm hcomes =>
    have hbody := Eval.preserves_below fun v ↦ eval_holding env ((param, v) :: m.locals) e'
    have hbelow : Eval.Below param m.locals m' :=
      hcomes.preserves hbody ⟨.null, by rw [locals_of_eval hrun]⟩
    refine .inr ⟨s', param, .methodArg List.mem_cons_self, ?_⟩
    rw [Machine.names, Eval.below_setParameter hbelow v]
    rfl
  | callFunction => exact .inl ⟨.callFunction, rfl⟩
  | callArg _ hrun harg =>
    have hlocals := harg.locals_eq.trans (locals_of_eval hrun)
    exact .inl ⟨.callArg harg.mem, Machine.names_congr hlocals⟩
  | nameArg harg => exact .inl ⟨.callArg harg.mem, Machine.names_congr harg.locals_eq⟩
  | unaryOperand => exact .inl ⟨.unaryOperand, rfl⟩
  | binaryLeft => exact .inl ⟨.binaryLeft, rfl⟩
  | binaryRight hrun => exact .inl ⟨.binaryRight, Machine.names_congr (locals_of_eval hrun)⟩
  | condition => exact .inl ⟨.condition, rfl⟩
  | onTrue hrun => exact .inl ⟨.onTrue, Machine.names_congr (locals_of_eval hrun)⟩
  | onFalse hrun => exact .inl ⟨.onFalse, Machine.names_congr (locals_of_eval hrun)⟩

theorem Enters.sizeOf_lt (h : Enters env e m e' m') : sizeOf e' < sizeOf e := by
  rcases h.part with ⟨hpart, _⟩ | ⟨s, param, hpart, _⟩
  · exact hpart.sizeOf_lt
  · have hbody : Part (closure s param e') [param] e' := .closureBody
    exact Nat.lt_trans hbody.sizeOf_lt hpart.sizeOf_lt

/-- What is reached stands in the expression, and the parameters in force are those that it stands
below. -/
theorem Reaches.occurs (h : Reaches env e m e' m') :
    ∃ params, Occurs e params e' ∧ m'.names = params ++ m.names := by
  unfold Reaches at h
  generalize hp : (e', m') = p at h
  induction h generalizing e' m' with
  | refl =>
    cases hp
    exact ⟨[], .here, rfl⟩
  | @tail q _ _ henters ih =>
    cases hp
    obtain ⟨params, hoccurs, hnames⟩ := ih rfl
    rcases Enters.part henters with ⟨hpart, hsame⟩ | ⟨s, param, hpart, hmore⟩
    · exact ⟨params, hoccurs.part hpart, hsame.trans hnames⟩
    · refine ⟨param :: params, (hoccurs.part hpart).part .closureBody, ?_⟩
      rw [hmore, hnames]
      rfl

end Expr

end ReleaseAudit
