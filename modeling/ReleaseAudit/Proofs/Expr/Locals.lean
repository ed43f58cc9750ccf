import ReleaseAudit.Proofs.Expr.Meaning
import ReleaseAudit.Proofs.Expr.Occurrence
import ReleaseAudit.Proofs.History.Access

/-!
# The parameters in force

Evaluation below some parameters comes to what the expression means in the scope that they make. It
leaves the stack of parameters as it found it, whether it returns a value or fails.
-/

namespace ReleaseAudit

namespace Eval

variable {α β : Type} {P : Machine → Prop} {act : Eval α} {x : Meaning α}

/-- What holds of the machine before `act` holds behind it, also when `act` fails. -/
def Preserves (P : Machine → Prop) (act : Eval α) : Prop := ∀ m, P m → P (act m).2

/-- On a machine that satisfies `P` the action ends as `x` says and prints its text, and `P` holds
again behind it. -/
def Realizes (P : Machine → Prop) (act : Eval α) (x : Meaning α) : Prop :=
  ∀ m, P m → ∃ m', P m' ∧ m'.printed = m.printed ++ x.text ∧ act m = (x.result, m')

theorem Realizes.preserves (h : Realizes P act x) : Preserves P act := by
  intro m hm
  obtain ⟨m', hm', -, hrun⟩ := h m hm
  rw [hrun]
  exact hm'

theorem realizes_pure (a : α) : Realizes P (pure a) (pure a) :=
  fun m hm ↦ ⟨m, hm, String.append_empty.symm, rfl⟩

theorem realizes_fail (span : Span) (fault : Fault) :
    Realizes P (fail span fault : Eval α) (Meaning.fail span fault) :=
  fun m hm ↦ ⟨m, hm, String.append_empty.symm, rfl⟩

theorem Realizes.bind {next : α → Eval β} {y : α → Meaning β} (hact : Realizes P act x)
    (hnext : ∀ a, Realizes P (next a) (y a)) : Realizes P (act >>= next) (x >>= y) := by
  intro m hm
  obtain ⟨mid, hmid, htext, hrun⟩ := hact m hm
  rw [Access.bind_apply, hrun]
  obtain ⟨e | a, text⟩ := x
  · exact ⟨mid, hmid, htext, rfl⟩
  · obtain ⟨m', hm', hmore, hlast⟩ := hnext a mid hmid
    refine ⟨m', hm', ?_, hlast⟩
    rw [hmore, htext, String.append_assoc]
    rfl

theorem realizes_settle (span : Span) (result : Except Failure α) :
    Realizes P (settle span result) (Meaning.settle span result) := by
  cases result with
  | error failure => exact fun m hm ↦ ⟨m, hm, String.append_empty.symm, rfl⟩
  | ok a => exact realizes_pure a

theorem realizes_located (span : Span) (result : Except Fault α) :
    Realizes P (located span result) (Meaning.located span result) := realizes_settle span _

/-! ## Actions that concern the parameters -/

/-- The parameters are those of `locals`. -/
abbrev Holding (locals : List (String × Value)) (m : Machine) : Prop := m.locals = locals

/-- The parameters are `name` with any value and those of `locals`. -/
def Below (name : String) (locals : List (String × Value)) (m : Machine) : Prop :=
  ∃ v, m.locals = (name, v) :: locals

variable {env : Environment} {locals : List (String × Value)} {name : String}

theorem realizes_resolve? {next : Option Value → Eval α}
    (h : Realizes (Holding locals) (next (locals.lookup name <|> env.get? name)) x) :
    Realizes (Holding locals) (resolve? env name >>= next) x := by
  rintro m rfl
  exact h m rfl

theorem realizes_print (text : String) :
    Realizes (Holding locals) (print text) (Meaning.print text) :=
  fun m hm ↦ ⟨{ m with printed := m.printed ++ text }, hm, rfl, rfl⟩

theorem realizes_callHost [HostCode] (span : Span) (f : HostFunction) (args : List Value) :
    Realizes (Holding locals) (callHost span f args) (Meaning.callHost span f args) :=
  (realizes_print _).bind fun _ ↦ realizes_settle span _

theorem realizes_callValue [HostCode] (span : Span) (callee : Value) (args : List Value) :
    Realizes (Holding locals) (callValue span callee args)
      (Meaning.callValue span callee args) := by
  cases callee with
  | function f => exact realizes_callHost span f args
  | _ => exact realizes_fail span _

theorem realizes_callMethod [HostCode] (span : Span) (v : Value) (method : String) (args : List Value) :
    Realizes (Holding locals) (callMethod span v method args)
      (Meaning.callMethod span v method args) := by
  unfold callMethod Meaning.callMethod
  cases v.hostMethod? method with
  | some f => exact realizes_callHost span f args
  | none => exact realizes_located span _

theorem below_setParameter {m : Machine} (h : Below name locals m) (v : Value) :
    (setParameter v m).2.locals = (name, v) :: locals := by
  obtain ⟨w, hw⟩ := h
  cases m
  cases hw
  rfl

/-- An action on the machine with a parameter on top, run on one item after the other. -/
theorem preserves_below {body : Eval α}
    (hbody : ∀ v, Preserves (Holding ((name, v) :: locals)) body) (v : Value) :
    Preserves (Below name locals) (do setParameter v; body) := by
  intro m hm
  exact ⟨v, hbody v _ (below_setParameter hm v)⟩

/-- The body of a closure, run on one item after the other. -/
theorem realizes_below {body : Eval α} {y : Value → Meaning α}
    (hbody : ∀ v, Realizes (Holding ((name, v) :: locals)) body (y v)) (v : Value) :
    Realizes (Below name locals) (do setParameter v; body) (y v) := by
  intro m hm
  obtain ⟨m', hm', htext, hrun⟩ := hbody v _ (below_setParameter hm v)
  refine ⟨m', ⟨v, hm'⟩, ?_, hrun⟩
  rw [htext]
  obtain ⟨w, hw⟩ := hm
  cases m
  cases hw
  rfl

theorem Realizes.withParameter (hact : Realizes (Below name locals) act x) :
    Realizes (Holding locals) (withParameter name act) x := by
  rintro m rfl
  obtain ⟨m', ⟨v, hv⟩, htext, hrun⟩ :=
    hact { m with locals := (name, .null) :: m.locals } ⟨.null, rfl⟩
  refine ⟨{ m' with locals := m'.locals.tail }, congrArg List.tail hv, htext, ?_⟩
  simp only [Eval.withParameter, hrun]

end Eval

namespace ClosureMethod

open Eval (Realizes)

variable {P : Machine → Prop} {body : Value → Eval Value} {y : Value → Meaning Value}

/-- Filtering runs the closure on all items, too. -/
theorem filterItems_eq (body : Value → Eval Value) (items : List Value) :
    filterItems body items = (do return kept items (← mapItems body items)) := by
  induction items with
  | nil => rfl
  | cons v vs ih =>
    simp only [filterItems, mapItems, ih, bind_assoc, pure_bind]
    refine bind_congr fun w ↦ bind_congr fun ws ↦ congrArg pure ?_
    cases hw : w.isTruthy <;> simp [kept, hw]

/-- Counting goes over the items as filtering does. -/
theorem countItems_eq (body : Value → Eval Value) (n : Nat) (items : List Value) :
    countItems body n items = (do return n + (← filterItems body items).length) := by
  induction items generalizing n with
  | nil => rfl
  | cons v vs ih =>
    simp only [countItems, filterItems, ih, bind_assoc, pure_bind]
    refine bind_congr fun w ↦ ?_
    cases w.isTruthy with
    | false => simp
    | true => simp [Nat.add_right_comm, Nat.add_assoc]

theorem realizes_mapItems (hbody : ∀ v, Realizes P (body v) (y v)) (items : List Value) :
    Realizes P (mapItems body items) (items.mapM y) := by
  induction items with
  | nil => exact Eval.realizes_pure []
  | cons v vs ih =>
    rw [List.mapM_cons]
    exact (hbody v).bind fun _ ↦ ih.bind fun _ ↦ Eval.realizes_pure _

theorem realizes_firstItem (hbody : ∀ v, Realizes P (body v) (y v)) (wanted : Bool)
    (items : List Value) :
    Realizes P (firstItem wanted body items)
      (items.findM? fun v ↦ do return (← y v).isTruthy == wanted) := by
  induction items with
  | nil => exact Eval.realizes_pure none
  | cons v vs ih =>
    rw [firstItem, List.findM?, bind_assoc]
    refine (hbody v).bind fun w ↦ ?_
    rw [pure_bind]
    cases w.isTruthy == wanted with
    | true => exact Eval.realizes_pure _
    | false => exact ih

theorem anyM_eq {m : Type → Type} [Monad m] [LawfulMonad m] {α : Type} (p : α → m Bool)
    (items : List α) : items.anyM p = (do return (← items.findM? p).isSome) := by
  induction items with
  | nil => simp
  | cons v vs ih =>
    rw [List.anyM_cons, List.findM?, bind_assoc]
    refine bind_congr fun holds ↦ ?_
    cases holds with
    | true => simp
    | false => exact ih

theorem allM_eq {m : Type → Type} [Monad m] [LawfulMonad m] {α : Type} (p : α → m Bool)
    (items : List α) :
    items.allM p = (do return (← items.findM? fun v ↦ do return !(← p v)).isNone) := by
  induction items with
  | nil => simp
  | cons v vs ih =>
    rw [List.allM_cons, List.findM?, bind_assoc, bind_assoc]
    refine bind_congr fun holds ↦ ?_
    cases holds with
    | true => simpa using ih
    | false => simp

theorem realizes_run (hbody : ∀ v, Realizes P (body v) (y v)) (method : ClosureMethod)
    (items : List Value) : Realizes P (method.run body items) (method.meaning y items) := by
  cases method with
  | filter =>
    rw [run, meaning, filterItems_eq, bind_assoc]
    simp only [pure_bind]
    exact (realizes_mapItems hbody items).bind fun _ ↦ Eval.realizes_pure _
  | count =>
    rw [run, meaning, countItems_eq, filterItems_eq, bind_assoc, bind_assoc]
    simp only [pure_bind, Nat.zero_add]
    exact (realizes_mapItems hbody items).bind fun _ ↦ Eval.realizes_pure _
  | map => exact (realizes_mapItems hbody items).bind fun _ ↦ Eval.realizes_pure _
  | find =>
    have hfirst := realizes_firstItem hbody true items
    simp only [beq_true] at hfirst
    exact hfirst.bind fun _ ↦ Eval.realizes_pure _
  | any =>
    have hfirst := realizes_firstItem hbody true items
    simp only [beq_true] at hfirst
    simp only [run, meaning, anyM_eq, bind_assoc, pure_bind]
    exact hfirst.bind fun _ ↦ Eval.realizes_pure _
  | all =>
    have hfirst := realizes_firstItem hbody false items
    simp only [beq_false] at hfirst
    simp only [run, meaning, allM_eq, bind_assoc, pure_bind]
    exact hfirst.bind fun _ ↦ Eval.realizes_pure _

end ClosureMethod

namespace Expr

open Eval (Preserves Realizes Holding)

variable [HostCode] {env : Environment} {locals : List (String × Value)}

theorem realizes_evalItems {es : List Expr} {scope : Scope}
    (hes : ∀ e ∈ es, Realizes (Holding locals) (eval env e) (meaning scope e)) :
    Realizes (Holding locals) (evalItems env es) (meanings scope es) := by
  induction es with
  | nil =>
    rw [evalItems, meanings]
    exact Eval.realizes_pure []
  | cons e es ih =>
    obtain ⟨he, hes⟩ := List.forall_mem_cons.1 hes
    rw [evalItems, meanings]
    exact he.bind fun _ ↦ (ih hes).bind fun _ ↦ Eval.realizes_pure _

theorem realizes_evalEntries {es : List (String × Expr)} {scope : Scope}
    (hes : ∀ k e, (k, e) ∈ es → Realizes (Holding locals) (eval env e) (meaning scope e))
    (d : Dict Value) :
    Realizes (Holding locals) (evalEntries env d es) (entryMeanings scope d es) := by
  induction es generalizing d with
  | nil =>
    rw [evalEntries, entryMeanings]
    exact Eval.realizes_pure d
  | cons entry es ih =>
    obtain ⟨k, e⟩ := entry
    rw [evalEntries, entryMeanings]
    refine (hes k e List.mem_cons_self).bind fun v ↦ ih (fun k' e' he' ↦ ?_) _
    exact hes k' e' (List.mem_cons_of_mem _ he')

theorem realizes_name (s : Span) (n : String) :
    Realizes (Holding locals) (eval env (name s n))
      (meaning (Scope.around env locals) (name s n)) := by
  rw [eval, meaning, Scope.around_apply]
  refine Eval.realizes_resolve? ?_
  cases locals.lookup n <|> env.get? n with
  | some v => exact Eval.realizes_pure v
  | none => cases Builtin.ofName? n <;> exact Eval.realizes_fail s _

/-- A closure that no method runs is a fault. -/
theorem realizes_closure {s : Span} {param : String} {body : Expr}
    {next : List Value → Eval Value} :
    Realizes (Holding locals) (evalItems env [closure s param body] >>= next)
      (Meaning.fail s .strayClosure) := by
  rw [evalItems, eval]
  exact Eval.realizes_fail s .strayClosure

theorem realizes_method {s : Span} {receiver : Expr} {n : String} {args : List Expr}
    (hreceiver : Realizes (Holding locals) (eval env receiver)
      (meaning (Scope.around env locals) receiver))
    (hargs : Realizes (Holding locals) (evalItems env args)
      (meanings (Scope.around env locals) args))
    (hbody : ∀ s param body, args = [closure s param body] →
      ∀ v, Realizes (Holding ((param, v) :: locals)) (eval env body)
        (meaning (Scope.around env ((param, v) :: locals)) body)) :
    Realizes (Holding locals) (eval env (method s receiver n args))
      (meaning (Scope.around env locals) (method s receiver n args)) := by
  rcases eq_closure_or_ne args with ⟨s', param, body, rfl⟩ | hne
  · rw [eval, meaning]
    refine hreceiver.bind fun v ↦ ?_
    cases ClosureMethod.ofName? n with
    | none => exact realizes_closure
    | some cm =>
      cases v with
      | list items =>
        have hitem := Eval.realizes_below (hbody s' param body rfl)
        exact (ClosureMethod.realizes_run hitem cm items).withParameter
      | _ => exact realizes_closure
  · rw [eval, meaning]
    · exact hreceiver.bind fun v ↦ hargs.bind fun _ ↦ Eval.realizes_callMethod s v n _
    · exact hne
    · exact hne

theorem realizes_call {s : Span} {function : Expr} {args : List Expr}
    (hfunction : Realizes (Holding locals) (eval env function)
      (meaning (Scope.around env locals) function))
    (hargs : Realizes (Holding locals) (evalItems env args)
      (meanings (Scope.around env locals) args)) :
    Realizes (Holding locals) (eval env (call s function args))
      (meaning (Scope.around env locals) (call s function args)) := by
  rcases eq_name_or_ne function with ⟨s', n, rfl⟩ | hne
  · rw [eval, meaning, Scope.around_apply]
    refine Eval.realizes_resolve? ?_
    cases locals.lookup n <|> env.get? n with
    | some callee => exact hargs.bind fun _ ↦ Eval.realizes_callValue s callee _
    | none =>
      refine hargs.bind fun _ ↦ ?_
      cases Builtin.ofName? n with
      | some b => exact Eval.realizes_located s _
      | none => exact Eval.realizes_fail s _
  · rw [eval_call env s args hne, meaning]
    · exact hfunction.bind fun callee ↦ hargs.bind fun _ ↦ Eval.realizes_callValue s callee _
    · exact hne

theorem realizes_binary {scope : Scope} {s : Span} {op : BinaryOp} {left right : Expr}
    (hleft : Realizes (Holding locals) (eval env left) (meaning scope left))
    (hright : Realizes (Holding locals) (eval env right) (meaning scope right)) :
    Realizes (Holding locals) (eval env (binary s op left right))
      (meaning scope (binary s op left right)) := by
  by_cases hand : op = .and
  · subst hand
    rw [eval, meaning]
    refine hleft.bind fun v ↦ ?_
    split
    · exact Eval.realizes_pure _
    · exact hright.bind fun _ ↦ Eval.realizes_pure _
  by_cases hor : op = .or
  · subst hor
    rw [eval, meaning]
    refine hleft.bind fun v ↦ ?_
    split
    · exact Eval.realizes_pure _
    · exact hright.bind fun _ ↦ Eval.realizes_pure _
  rw [eval_binary env s left right hand hor, meaning]
  · exact hleft.bind fun _ ↦ hright.bind fun _ ↦ Eval.realizes_located s _
  · exact hand
  · exact hor

/-- Evaluation below some parameters goes by the scope that they make. -/
theorem eval_realizes (env : Environment) (locals : List (String × Value)) (e : Expr) :
    Realizes (Holding locals) (eval env e) (meaning (Scope.around env locals) e) := by
  cases e with
  | null | bool | number | string =>
    rw [eval, meaning]
    exact Eval.realizes_pure _
  | name s n => exact realizes_name s n
  | list s items =>
    rw [eval, meaning]
    exact (realizes_evalItems fun e _ ↦ eval_realizes env locals e).bind fun _ ↦
      Eval.realizes_pure _
  | map s entries =>
    rw [eval, meaning]
    have hentries (k : String) (e : Expr) (he : (k, e) ∈ entries) :
        Realizes (Holding locals) (eval env e) (meaning (Scope.around env locals) e) :=
      have := sizeOf_lt_of_mem_entries he
      eval_realizes env locals e
    exact (realizes_evalEntries hentries []).bind fun _ ↦ Eval.realizes_pure _
  | property s receiver n =>
    rw [eval, meaning]
    exact (eval_realizes env locals receiver).bind fun _ ↦ Eval.realizes_located s _
  | index s receiver key =>
    rw [eval, meaning]
    exact (eval_realizes env locals receiver).bind fun _ ↦
      (eval_realizes env locals key).bind fun _ ↦ Eval.realizes_located s _
  | method s receiver n args =>
    have hargs (e : Expr) (_ : e ∈ args) := eval_realizes env locals e
    refine realizes_method (eval_realizes env locals receiver) (realizes_evalItems hargs) ?_
    rintro s' param body rfl v
    exact eval_realizes env ((param, v) :: locals) body
  | call s function args =>
    have hargs (e : Expr) (_ : e ∈ args) := eval_realizes env locals e
    exact realizes_call (eval_realizes env locals function) (realizes_evalItems hargs)
  | closure s param body =>
    rw [eval, meaning]
    exact Eval.realizes_fail s _
  | unary s op operand =>
    cases op with
    | not =>
      rw [eval, meaning]
      exact (eval_realizes env locals operand).bind fun _ ↦ Eval.realizes_pure _
    | minus =>
      rw [eval, meaning]
      exact (eval_realizes env locals operand).bind fun _ ↦ Eval.realizes_located s _
  | binary s op left right =>
    exact realizes_binary (eval_realizes env locals left) (eval_realizes env locals right)
  | conditional s condition onTrue onFalse =>
    rw [eval, meaning]
    refine (eval_realizes env locals condition).bind fun _ ↦ ?_
    split
    · exact eval_realizes env locals onTrue
    · exact eval_realizes env locals onFalse
termination_by e

/-- The stack of parameters is the same behind an evaluation as in front of it. -/
theorem eval_holding (env : Environment) (locals : List (String × Value)) (e : Expr) :
    Preserves (Holding locals) (eval env e) :=
  (eval_realizes env locals e).preserves

/-- Evaluation comes to what the expression means in the scope of the parameters in force. Behind it
the parameters are the same as before, whether there is a result or a fault. -/
theorem eval_eq_meaning (env : Environment) (e : Expr) (m : Machine) :
    eval env e m =
      ((meaning (Scope.around env m.locals) e).result,
        { m with printed := m.printed ++ (meaning (Scope.around env m.locals) e).text }) := by
  obtain ⟨after, hlocals, htext, hrun⟩ := eval_realizes env m.locals e m rfl
  rw [hrun, ← htext, ← hlocals]

end Expr

end ReleaseAudit
