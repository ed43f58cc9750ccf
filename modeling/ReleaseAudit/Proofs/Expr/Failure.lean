import ReleaseAudit.Proofs.Expr.Reached
import ReleaseAudit.Proofs.Value.Call

/-!
# Where an evaluation fails

An evaluation fails if and only if it comes to a node whose own operation fails, after everything that
this operation works on has been given a value. The error is located at that node, and the nodes around
it pass it on as it is. Only where the node calls a function of the embedding program that raises an error
about an expression itself, this error is passed on from there.
-/

namespace ReleaseAudit

/-! ## Operations -/

/-- How the call of a value fails. -/
inductive CallFails [HostCode] : Value → List Value → Failure → Prop
  | host {f : HostFunction} {args : List Value} {failure : Failure} :
      (f.call args).1 = .error failure → CallFails (.function f) args failure
  | notCallable {v : Value} {args : List Value} :
      (∀ f, v ≠ .function f) → CallFails v args (.ordinary (.notCallable v.kind))

/-- How a method of a value fails. -/
inductive MethodFails [HostCode] : Value → String → List Value → Failure → Prop
  | host {v : Value} {n : String} {args : List Value} {f : HostFunction} {failure : Failure} :
      v.hostMethod? n = some f → (f.call args).1 = .error failure → MethodFails v n args failure
  | own {v : Value} {n : String} {args : List Value} {fault : Fault} :
      v.hostMethod? n = none → v.method n args = .error fault →
      MethodFails v n args (.ordinary fault)

namespace Eval

variable {α : Type} {m : Machine} {err : Failure} {span : Span}

theorem fail_error_iff {fault : Fault} :
    ((fail span fault : Eval α) m).1 = .error err ↔ err = .evaluation ⟨fault, some span⟩ := by
  constructor
  · rintro ⟨⟩
    rfl
  · rintro rfl
    rfl

theorem settle_error_iff {result : Except Failure α} :
    (settle span result m).1 = .error err ↔
      ∃ failure, result = .error failure ∧ err = failure.locate span := by
  cases result with
  | ok a => exact iff_of_false (Access.pure_ne_error a m err) (by simp)
  | error failure =>
    constructor
    · rintro ⟨⟩
      exact ⟨failure, rfl, rfl⟩
    · rintro ⟨_, ⟨⟩, rfl⟩
      rfl

theorem located_error_iff {result : Except Fault α} :
    (located span result m).1 = .error err ↔
      ∃ fault, result = .error fault ∧ err = .evaluation ⟨fault, some span⟩ := by
  rw [located, settle_error_iff]
  simp only [Failure.mapError_eq_error_iff]
  constructor
  · rintro ⟨_, ⟨fault, hfault, rfl⟩, rfl⟩
    exact ⟨fault, hfault, rfl⟩
  · rintro ⟨fault, hfault, rfl⟩
    exact ⟨_, ⟨fault, hfault, rfl⟩, rfl⟩

variable [HostCode]

theorem callHost_error_iff {f : HostFunction} {args : List Value} :
    (callHost span f args m).1 = .error err ↔
      ∃ failure, (f.call args).1 = .error failure ∧ err = failure.locate span := by
  have hrun : callHost span f args m =
      settle span (f.call args).1 { m with printed := m.printed ++ (f.call args).2 } := rfl
  rw [hrun, settle_error_iff]

theorem callValue_error_iff {callee : Value} {args : List Value} :
    (callValue span callee args m).1 = .error err ↔
      ∃ failure, CallFails callee args failure ∧ err = failure.locate span := by
  unfold callValue
  split
  case h_1 f =>
    rw [callHost_error_iff]
    refine exists_congr fun failure ↦ and_congr_left fun _ ↦ ⟨.host, fun h ↦ ?_⟩
    cases h with
    | host hcall => exact hcall
    | notCallable hvalue => exact absurd rfl (hvalue f)
  case h_2 hvalue =>
    rw [fail_error_iff]
    constructor
    · exact fun h ↦ ⟨_, .notCallable hvalue, h⟩
    · rintro ⟨failure, hfails, rfl⟩
      cases hfails with
      | host _ => exact absurd rfl (hvalue _)
      | notCallable _ => rfl

theorem callMethod_error_iff {v : Value} {n : String} {args : List Value} :
    (callMethod span v n args m).1 = .error err ↔
      ∃ failure, MethodFails v n args failure ∧ err = failure.locate span := by
  unfold callMethod
  cases hhost : v.hostMethod? n with
  | some f =>
    rw [callHost_error_iff]
    refine exists_congr fun failure ↦ and_congr_left fun _ ↦ ⟨.host hhost, ?_⟩
    rintro (⟨h, hcall⟩ | ⟨h, _⟩)
    · cases hhost.symm.trans h
      exact hcall
    · cases hhost.symm.trans h
  | none =>
    rw [located_error_iff]
    constructor
    · rintro ⟨fault, hfault, rfl⟩
      exact ⟨_, .own hhost hfault, rfl⟩
    · rintro ⟨failure, ⟨h, _⟩ | ⟨_, hfault⟩, rfl⟩
      · cases hhost.symm.trans h
      · exact ⟨_, hfault, rfl⟩

end Eval

/-! ## Parts that are evaluated in turn -/

namespace ClosureMethod

variable {method : ClosureMethod} {body : Value → Eval Value} {v v' : Value} {vs items : List Value}
  {m m' : Machine} {e : Failure}

theorem not_comes_nil : ¬ Comes method body [] m v m' := by
  intro h
  cases h

theorem comes_cons_iff : Comes method body (v :: vs) m v' m' ↔
    (v' = v ∧ m' = m) ∨
      ∃ w mid, body v m = (.ok w, mid) ∧ method.goesOn w ∧ Comes method body vs mid v' m' := by
  constructor
  · intro h
    cases h with
    | first => exact .inl ⟨rfl, rfl⟩
    | next hrun hgoes hcomes => exact .inr ⟨_, _, hrun, hgoes, hcomes⟩
  · rintro (⟨rfl, rfl⟩ | ⟨w, mid, hrun, hgoes, hcomes⟩)
    · exact .first
    · exact .next hrun hgoes hcomes

/-- There is an item that the closure is run on and fails for. -/
def FailsAt (method : ClosureMethod) (body : Value → Eval Value) (items : List Value) (m : Machine)
    (e : Failure) : Prop :=
  ∃ v m', Comes method body items m v m' ∧ (body v m').1 = .error e

theorem not_failsAt_nil : ¬ method.FailsAt body [] m e := by
  rintro ⟨v, m', hcomes, _⟩
  exact not_comes_nil hcomes

theorem failsAt_cons_iff : method.FailsAt body (v :: vs) m e ↔
    (body v m).1 = .error e ∨
      ∃ w mid, body v m = (.ok w, mid) ∧ method.goesOn w ∧ method.FailsAt body vs mid e := by
  simp only [FailsAt, comes_cons_iff]
  constructor
  · rintro ⟨v', m', ⟨rfl, rfl⟩ | ⟨w, mid, hrun, hgoes, hcomes⟩, hfails⟩
    · exact .inl hfails
    · exact .inr ⟨w, mid, hrun, hgoes, v', m', hcomes, hfails⟩
  · rintro (hfails | ⟨w, mid, hrun, hgoes, v', m', hcomes, hfails⟩)
    · exact ⟨v, m, .inl ⟨rfl, rfl⟩, hfails⟩
    · exact ⟨v', m', .inr ⟨w, mid, hrun, hgoes, hcomes⟩, hfails⟩

theorem mapItems_error_iff (hgoes : ∀ w, method.goesOn w) :
    (mapItems body items m).1 = .error e ↔ method.FailsAt body items m e := by
  induction items generalizing m with
  | nil => exact iff_of_false (Access.pure_ne_error _ m e) not_failsAt_nil
  | cons v vs ih =>
    rw [mapItems, Access.bind_error_iff, failsAt_cons_iff]
    refine or_congr_right (exists_congr fun w ↦ exists_congr fun mid ↦ and_congr_right fun _ ↦ ?_)
    rw [Access.map_error_iff, ih, and_iff_right (hgoes w)]

theorem filterItems_error_iff (hgoes : ∀ w, method.goesOn w) :
    (filterItems body items m).1 = .error e ↔ method.FailsAt body items m e := by
  rw [filterItems_eq, Access.map_error_iff, mapItems_error_iff hgoes]

theorem countItems_error_iff (hgoes : ∀ w, method.goesOn w) (n : Nat) :
    (countItems body n items m).1 = .error e ↔ method.FailsAt body items m e := by
  rw [countItems_eq, Access.map_error_iff, filterItems_error_iff hgoes]

theorem firstItem_error_iff {wanted : Bool}
    (hgoes : ∀ w : Value, method.goesOn w ↔ w.isTruthy ≠ wanted) :
    (firstItem wanted body items m).1 = .error e ↔ method.FailsAt body items m e := by
  induction items generalizing m with
  | nil => exact iff_of_false (Access.pure_ne_error _ m e) not_failsAt_nil
  | cons v vs ih =>
    rw [firstItem, Access.bind_error_iff, failsAt_cons_iff]
    refine or_congr_right (exists_congr fun w ↦ exists_congr fun mid ↦ and_congr_right fun _ ↦ ?_)
    by_cases hw : w.isTruthy = wanted
    · rw [if_pos (by simpa using hw), hgoes]
      exact iff_of_false (Access.pure_ne_error _ mid e) fun h ↦ h.1 hw
    · rw [if_neg (by simpa using hw), ih, and_iff_right ((hgoes w).2 hw)]

/-- A method fails where its closure does. -/
theorem run_error_iff : (method.run body items m).1 = .error e ↔ method.FailsAt body items m e := by
  cases method with
  | filter =>
    rw [run, Access.map_error_iff]
    exact filterItems_error_iff fun _ ↦ rfl
  | count =>
    rw [run, Access.map_error_iff]
    exact countItems_error_iff (fun _ ↦ rfl) 0
  | map =>
    rw [run, Access.map_error_iff]
    exact mapItems_error_iff fun _ ↦ rfl
  | find | any =>
    rw [run, Access.map_error_iff]
    exact firstItem_error_iff fun w ↦ by simp [goesOn]
  | all =>
    rw [run, Access.map_error_iff]
    exact firstItem_error_iff fun w ↦ by simp [goesOn]

end ClosureMethod

namespace Expr

variable [HostCode] {env : Environment} {e e' : Expr} {es : List Expr} {m m' mid : Machine}
  {err : Failure}

theorem entersItem_cons_iff : EntersItem env (e :: es) m e' m' ↔
    (e' = e ∧ m' = m) ∨ ∃ v mid, eval env e m = (.ok v, mid) ∧ EntersItem env es mid e' m' := by
  constructor
  · intro h
    cases h with
    | first => exact .inl ⟨rfl, rfl⟩
    | next hrun henters => exact .inr ⟨_, _, hrun, henters⟩
  · rintro (⟨rfl, rfl⟩ | ⟨v, mid, hrun, henters⟩)
    · exact .first
    · exact .next hrun henters

/-- One of the expressions fails when they are evaluated in their order. -/
def FailsAmong (env : Environment) (es : List Expr) (m : Machine) (err : Failure) : Prop :=
  ∃ e m', EntersItem env es m e m' ∧ (eval env e m').1 = .error err

theorem not_failsAmong_nil : ¬ FailsAmong env [] m err := by
  rintro ⟨e, m', henters, _⟩
  cases henters

theorem failsAmong_cons_iff : FailsAmong env (e :: es) m err ↔
    (eval env e m).1 = .error err ∨
      ∃ v mid, eval env e m = (.ok v, mid) ∧ FailsAmong env es mid err := by
  simp only [FailsAmong, entersItem_cons_iff]
  constructor
  · rintro ⟨e', m', ⟨rfl, rfl⟩ | ⟨v, mid, hrun, henters⟩, hfails⟩
    · exact .inl hfails
    · exact .inr ⟨v, mid, hrun, e', m', henters, hfails⟩
  · rintro (hfails | ⟨v, mid, hrun, e', m', henters, hfails⟩)
    · exact ⟨e, m, .inl ⟨rfl, rfl⟩, hfails⟩
    · exact ⟨e', m', .inr ⟨v, mid, hrun, henters⟩, hfails⟩

theorem evalItems_error_iff :
    (evalItems env es m).1 = .error err ↔ FailsAmong env es m err := by
  induction es generalizing m with
  | nil =>
    rw [evalItems]
    exact iff_of_false (Access.pure_ne_error _ m err) not_failsAmong_nil
  | cons e es ih =>
    rw [evalItems, Access.bind_error_iff, failsAmong_cons_iff]
    refine or_congr_right (exists_congr fun v ↦ exists_congr fun mid ↦ and_congr_right fun _ ↦ ?_)
    rw [Access.map_error_iff, ih]

theorem evalEntries_error_iff {entries : List (String × Expr)} {d : Dict Value} :
    (evalEntries env d entries m).1 = .error err ↔
      FailsAmong env (entries.map Prod.snd) m err := by
  induction entries generalizing m d with
  | nil =>
    rw [evalEntries]
    exact iff_of_false (Access.pure_ne_error _ m err) not_failsAmong_nil
  | cons entry entries ih =>
    obtain ⟨k, e⟩ := entry
    rw [evalEntries, Access.bind_error_iff, List.map_cons, failsAmong_cons_iff]
    exact or_congr_right (exists_congr fun v ↦ exists_congr fun mid ↦ and_congr_right fun _ ↦ ih)

/-! ## Nodes that fail -/

/-- The expression calls a name, which it looks up itself. -/
def callsName : Expr → Bool
  | call _ (name _ _) _ => true
  | _ => false

omit [HostCode] in
theorem callsName_call {s : Span} {function : Expr} {args : List Expr}
    (h : ∀ s n, function ≠ name s n) : (call s function args).callsName = false := by
  cases function with
  | name s' n => exact absurd rfl (h s' n)
  | _ => rfl

/-- What is evaluated for an expression: the parts that are entered, other than the name of a called
function. -/
inductive Evaluates (env : Environment) : Expr → Machine → Expr → Machine → Prop
  | part {e e' : Expr} {m m' : Machine} : e.callsName = false → Enters env e m e' m' →
      Evaluates env e m e' m'
  | nameArg {s s' : Span} {n : String} {args : List Expr} {e' : Expr} {m m' : Machine} :
      EntersItem env args m e' m' → Evaluates env (call s (name s' n) args) m e' m'

/-- What a name stands for on the machine. -/
def found? (env : Environment) (m : Machine) (n : String) : Option Value :=
  m.locals.lookup n <|> env.get? n

/-- The operation of the node itself fails: what it works on has values. -/
inductive Fails (env : Environment) : Expr → Machine → Failure → Prop
  | uncalled {s : Span} {n : String} {b : Builtin} {m : Machine} :
      found? env m n = none → Builtin.ofName? n = some b →
      Fails env (name s n) m (.ordinary (.uncalledBuiltin n))
  | unknown {s : Span} {n : String} {m : Machine} :
      found? env m n = none → Builtin.ofName? n = none →
      Fails env (name s n) m (.ordinary (.unknownName n))
  | property {s : Span} {receiver : Expr} {n : String} {v : Value} {m mid : Machine} {fault : Fault} :
      eval env receiver m = (.ok v, mid) → v.property n = .error fault →
      Fails env (property s receiver n) m (.ordinary fault)
  | index {s : Span} {receiver key : Expr} {v k : Value} {m mid last : Machine} {fault : Fault} :
      eval env receiver m = (.ok v, mid) → eval env key mid = (.ok k, last) →
      v.index k = .error fault → Fails env (index s receiver key) m (.ordinary fault)
  | method {s : Span} {receiver : Expr} {n : String} {args : List Expr} {v : Value}
      {values : List Value} {m mid last : Machine} {failure : Failure} :
      eval env receiver m = (.ok v, mid) → ¬ Loops n v args →
      evalItems env args mid = (.ok values, last) → MethodFails v n values failure →
      Fails env (method s receiver n args) m failure
  | callName {s s' : Span} {n : String} {args : List Expr} {callee : Value} {values : List Value}
      {m mid : Machine} {failure : Failure} :
      found? env m n = some callee → evalItems env args m = (.ok values, mid) →
      CallFails callee values failure → Fails env (call s (name s' n) args) m failure
  | builtin {s s' : Span} {n : String} {args : List Expr} {b : Builtin} {values : List Value}
      {m mid : Machine} {fault : Fault} :
      found? env m n = none → evalItems env args m = (.ok values, mid) →
      Builtin.ofName? n = some b → b.call values = .error fault →
      Fails env (call s (name s' n) args) m (.ordinary fault)
  | unknownFunction {s s' : Span} {n : String} {args : List Expr} {values : List Value}
      {m mid : Machine} :
      found? env m n = none → evalItems env args m = (.ok values, mid) →
      Builtin.ofName? n = none → Fails env (call s (name s' n) args) m (.ordinary (.unknownFunction n))
  | call {s : Span} {function : Expr} {args : List Expr} {callee : Value} {values : List Value}
      {m mid last : Machine} {failure : Failure} : (∀ s n, function ≠ name s n) →
      eval env function m = (.ok callee, mid) → evalItems env args mid = (.ok values, last) →
      CallFails callee values failure → Fails env (call s function args) m failure
  | closure {s : Span} {param : String} {body : Expr} {m : Machine} :
      Fails env (closure s param body) m (.ordinary .strayClosure)
  | minus {s : Span} {operand : Expr} {v : Value} {m mid : Machine} {fault : Fault} :
      eval env operand m = (.ok v, mid) → v.negated = .error fault →
      Fails env (unary s .minus operand) m (.ordinary fault)
  | binary {s : Span} {op : BinaryOp} {left right : Expr} {v w : Value} {m mid last : Machine}
      {fault : Fault} : op ≠ .and → op ≠ .or → eval env left m = (.ok v, mid) →
      eval env right mid = (.ok w, last) → Value.binary op v w = .error fault →
      Fails env (binary s op left right) m (.ordinary fault)

/-- The error is located at the node, whose own operation fails, or it is that of a part. -/
inductive Arises (env : Environment) (e : Expr) (m : Machine) : Failure → Prop
  | own {failure : Failure} : Fails env e m failure → Arises env e m (failure.locate e.span)
  | part {e' : Expr} {m' : Machine} {err : Failure} : Evaluates env e m e' m' →
      (eval env e' m').1 = .error err → Arises env e m err

omit [HostCode] in
theorem resolve?_apply (n : String) : Eval.resolve? env n m = (.ok (found? env m n), m) := rfl

theorem eval_method_of_loops {s s' : Span} {receiver : Expr} {n param : String} {body : Expr}
    {cm : ClosureMethod} {items : List Value}
    (hreceiver : eval env receiver m = (.ok (.list items), mid))
    (hcm : ClosureMethod.ofName? n = some cm) :
    (eval env (method s receiver n [closure s' param body]) m).1 =
      (cm.run (fun item ↦ do Eval.setParameter item; eval env body) items
        { mid with locals := (param, .null) :: mid.locals }).1 := by
  rw [eval_method, Access.bind_apply, hreceiver]
  simp only [hcm]
  rfl

theorem eval_method_of_not_loops {s : Span} {receiver : Expr} {n : String} {args : List Expr}
    {v : Value} (hreceiver : eval env receiver m = (.ok v, mid)) (hloops : ¬ Loops n v args) :
    eval env (method s receiver n args) m =
      (evalItems env args >>= fun values ↦ Eval.callMethod s v n values) mid := by
  rw [eval_method, Access.bind_apply, hreceiver]
  refine congrFun ?_ mid
  split
  case h_1 hcm => exact absurd ⟨by simp [hcm], ⟨_, rfl⟩, _, _, _, rfl⟩ hloops
  case h_2 => rfl

/-- A node whose own operation fails is where the error is. -/
theorem error_of_fails {failure : Failure} (h : Fails env e m failure) :
    (eval env e m).1 = .error (failure.locate e.span) := by
  cases h with
  | uncalled hfound hbuiltin =>
    rw [eval, Access.bind_apply, resolve?_apply, hfound]
    simp only [hbuiltin]
    rfl
  | unknown hfound hbuiltin =>
    rw [eval, Access.bind_apply, resolve?_apply, hfound]
    simp only [hbuiltin]
    rfl
  | property hv hfault =>
    rw [eval, Access.bind_error_iff]
    exact .inr ⟨_, _, hv, Eval.located_error_iff.2 ⟨_, hfault, rfl⟩⟩
  | index hv hk hfault =>
    rw [eval, Access.bind_error_iff]
    refine .inr ⟨_, _, hv, Access.bind_error_iff.2 (.inr ⟨_, _, hk, ?_⟩)⟩
    exact Eval.located_error_iff.2 ⟨_, hfault, rfl⟩
  | method hv hloops hvalues hfault =>
    rw [eval_method_of_not_loops hv hloops, Access.bind_error_iff]
    exact .inr ⟨_, _, hvalues, Eval.callMethod_error_iff.2 ⟨_, hfault, rfl⟩⟩
  | callName hfound hvalues hfault =>
    rw [eval, Access.bind_apply, resolve?_apply, hfound]
    refine Access.bind_error_iff.2 (.inr ⟨_, _, hvalues, ?_⟩)
    exact Eval.callValue_error_iff.2 ⟨_, hfault, rfl⟩
  | builtin hfound hvalues hbuiltin hfault =>
    rw [eval, Access.bind_apply, resolve?_apply, hfound]
    refine Access.bind_error_iff.2 (.inr ⟨_, _, hvalues, ?_⟩)
    simp only [hbuiltin]
    exact Eval.located_error_iff.2 ⟨_, hfault, rfl⟩
  | unknownFunction hfound hvalues hbuiltin =>
    rw [eval, Access.bind_apply, resolve?_apply, hfound]
    refine Access.bind_error_iff.2 (.inr ⟨_, _, hvalues, ?_⟩)
    simp only [hbuiltin]
    rfl
  | call hname hcallee hvalues hfault =>
    rw [eval_call _ _ _ hname, Access.bind_error_iff]
    refine .inr ⟨_, _, hcallee, Access.bind_error_iff.2 (.inr ⟨_, _, hvalues, ?_⟩)⟩
    exact Eval.callValue_error_iff.2 ⟨_, hfault, rfl⟩
  | closure =>
    rw [eval]
    rfl
  | minus hv hfault =>
    rw [eval, Access.bind_error_iff]
    exact .inr ⟨_, _, hv, Eval.located_error_iff.2 ⟨_, hfault, rfl⟩⟩
  | binary hand hor hv hw hfault =>
    rw [eval_binary _ _ _ _ hand hor, Access.bind_error_iff]
    refine .inr ⟨_, _, hv, Access.bind_error_iff.2 (.inr ⟨_, _, hw, ?_⟩)⟩
    exact Eval.located_error_iff.2 ⟨_, hfault, rfl⟩

/-- The arguments of a called name are evaluated whether the name stands for something or not. -/
theorem error_of_nameArg {s s' : Span} {n : String} {args : List Expr}
    (h : FailsAmong env args m err) :
    (eval env (call s (name s' n) args) m).1 = .error err := by
  rw [eval, Access.bind_apply, resolve?_apply]
  cases found? env m n with
  | some callee => exact Access.bind_error_iff.2 (.inl (evalItems_error_iff.2 h))
  | none => exact Access.bind_error_iff.2 (.inl (evalItems_error_iff.2 h))

/-- The right operand of `and` and `or` is evaluated if the left one does not decide. -/
theorem binary_error_iff {s : Span} {op : BinaryOp} {left right : Expr} :
    (eval env (binary s op left right) m).1 = .error err ↔
      (eval env left m).1 = .error err ∨ ∃ v mid, eval env left m = (.ok v, mid) ∧
        ((op = .and → v.isTruthy) ∧ (op = .or → ¬ v.isTruthy) ∧ (eval env right mid).1 = .error err ∨
          op ≠ .and ∧ op ≠ .or ∧ ∃ w last fault, eval env right mid = (.ok w, last) ∧
            Value.binary op v w = .error fault ∧ err = .evaluation ⟨fault, some s⟩) := by
  by_cases hand : op = .and
  · subst hand
    rw [eval, Access.bind_error_iff]
    refine or_congr_right (exists_congr fun v ↦ exists_congr fun mid ↦ and_congr_right fun _ ↦ ?_)
    cases v.isTruthy with
    | false => exact iff_of_false (Access.pure_ne_error _ mid err) (by simp)
    | true =>
      simp only [Bool.not_true, Bool.false_eq_true, if_false]
      rw [Access.map_error_iff]
      simp
  by_cases hor : op = .or
  · subst hor
    rw [eval, Access.bind_error_iff]
    refine or_congr_right (exists_congr fun v ↦ exists_congr fun mid ↦ and_congr_right fun _ ↦ ?_)
    cases v.isTruthy with
    | true => exact iff_of_false (Access.pure_ne_error _ mid err) (by simp)
    | false =>
      simp only [Bool.false_eq_true, if_false]
      rw [Access.map_error_iff]
      simp
  rw [eval_binary env s left right hand hor, Access.bind_error_iff]
  refine or_congr_right (exists_congr fun v ↦ exists_congr fun mid ↦ and_congr_right fun _ ↦ ?_)
  simp [Access.bind_error_iff, Eval.located_error_iff, hand, hor]

/-- No node around a part that fails changes the error. -/
theorem error_of_evaluates (h : Evaluates env e m e' m') (hfails : (eval env e' m').1 = .error err) :
    (eval env e m).1 = .error err := by
  cases h with
  | nameArg hitem => exact error_of_nameArg ⟨_, _, hitem, hfails⟩
  | part hname henters =>
    cases henters with
    | item hitem =>
      rw [eval, Access.map_error_iff]
      exact evalItems_error_iff.2 ⟨_, _, hitem, hfails⟩
    | entry hentry =>
      rw [eval, Access.map_error_iff]
      exact evalEntries_error_iff.2 ⟨_, _, hentry, hfails⟩
    | propertyReceiver | indexReceiver =>
      rw [eval, Access.bind_error_iff]
      exact .inl hfails
    | indexKey hv =>
      rw [eval, Access.bind_error_iff]
      exact .inr ⟨_, _, hv, Access.bind_error_iff.2 (.inl hfails)⟩
    | methodReceiver =>
      rw [eval_method, Access.bind_error_iff]
      exact .inl hfails
    | methodArg hv hloops hitem =>
      rw [eval_method_of_not_loops hv hloops, Access.bind_error_iff]
      exact .inl (evalItems_error_iff.2 ⟨_, _, hitem, hfails⟩)
    | methodClosure hv hcm hcomes =>
      rw [eval_method_of_loops hv hcm]
      exact ClosureMethod.run_error_iff.2 ⟨_, _, hcomes, hfails⟩
    | callFunction =>
      have hne (s : Span) (n : String) : e' ≠ name s n := by
        rintro rfl
        cases hname
      rw [eval_call _ _ _ hne, Access.bind_error_iff]
      exact .inl hfails
    | callArg hne hv hitem =>
      rw [eval_call _ _ _ hne, Access.bind_error_iff]
      refine .inr ⟨_, _, hv, Access.bind_error_iff.2 (.inl ?_)⟩
      exact evalItems_error_iff.2 ⟨_, _, hitem, hfails⟩
    | nameArg _ => cases hname
    | @unaryOperand s op operand m =>
      cases op with
      | not =>
        rw [eval, Access.map_error_iff]
        exact hfails
      | minus =>
        rw [eval, Access.bind_error_iff]
        exact .inl hfails
    | binaryLeft => exact binary_error_iff.2 (.inl hfails)
    | binaryRight hv hand hor => exact binary_error_iff.2 (.inr ⟨_, _, hv, .inl ⟨hand, hor, hfails⟩⟩)
    | condition =>
      rw [eval, Access.bind_error_iff]
      exact .inl hfails
    | onTrue hv htrue =>
      rw [eval, Access.bind_error_iff]
      refine .inr ⟨_, _, hv, ?_⟩
      rw [if_pos htrue]
      exact hfails
    | onFalse hv hfalse =>
      rw [eval, Access.bind_error_iff]
      refine .inr ⟨_, _, hv, ?_⟩
      rw [if_neg hfalse]
      exact hfails

theorem arises_name {s : Span} {n : String} (h : (eval env (name s n) m).1 = .error err) :
    Arises env (name s n) m err := by
  rw [eval, Access.bind_apply, resolve?_apply] at h
  cases hfound : found? env m n with
  | some v =>
    rw [hfound] at h
    cases h
  | none =>
    rw [hfound] at h
    obtain rfl := Eval.fail_error_iff.1 h
    cases hbuiltin : Builtin.ofName? n with
    | some b => exact .own (.uncalled hfound hbuiltin)
    | none => exact .own (.unknown hfound hbuiltin)

theorem arises_method {s : Span} {receiver : Expr} {n : String} {args : List Expr}
    (h : (eval env (method s receiver n args) m).1 = .error err) :
    Arises env (method s receiver n args) m err := by
  rcases hreceiver : eval env receiver m with ⟨e | v, mid⟩
  · rw [eval_method, Access.bind_apply, hreceiver] at h
    exact .part (.part rfl .methodReceiver) (hreceiver ▸ h)
  by_cases hloops : Loops n v args
  · obtain ⟨hcm, ⟨items, rfl⟩, s', param, body, rfl⟩ := hloops
    obtain ⟨cm, hcm⟩ := Option.isSome_iff_exists.1 hcm
    rw [eval_method_of_loops hreceiver hcm] at h
    obtain ⟨v, m', hcomes, hfails⟩ := ClosureMethod.run_error_iff.1 h
    exact .part (.part rfl (.methodClosure hreceiver hcm hcomes)) hfails
  · rw [eval_method_of_not_loops hreceiver hloops] at h
    rcases Access.bind_error_iff.1 h with hargs | ⟨values, last, hvalues, hown⟩
    · obtain ⟨e', m', hitem, hfails⟩ := evalItems_error_iff.1 hargs
      exact .part (.part rfl (.methodArg hreceiver hloops hitem)) hfails
    · obtain ⟨fault, hfault, rfl⟩ := Eval.callMethod_error_iff.1 hown
      exact .own (.method hreceiver hloops hvalues hfault)

/-- The arguments of a called name are evaluated before it is missed. -/
theorem arises_call_name {s s' : Span} {n : String} {args : List Expr}
    (h : (eval env (call s (name s' n) args) m).1 = .error err) :
    Arises env (call s (name s' n) args) m err := by
  rw [eval, Access.bind_apply, resolve?_apply] at h
  cases hfound : found? env m n with
  | some callee =>
    rw [hfound] at h
    rcases Access.bind_error_iff.1 h with hargs | ⟨values, last, hvalues, hown⟩
    · obtain ⟨e', m', hitem, hfails⟩ := evalItems_error_iff.1 hargs
      exact .part (.nameArg hitem) hfails
    · obtain ⟨fault, hfault, rfl⟩ := Eval.callValue_error_iff.1 hown
      exact .own (.callName hfound hvalues hfault)
  | none =>
    rw [hfound] at h
    rcases Access.bind_error_iff.1 h with hargs | ⟨values, last, hvalues, hown⟩
    · obtain ⟨e', m', hitem, hfails⟩ := evalItems_error_iff.1 hargs
      exact .part (.nameArg hitem) hfails
    cases hbuiltin : Builtin.ofName? n with
    | some b =>
      simp only [hbuiltin] at hown
      obtain ⟨fault, hfault, rfl⟩ := Eval.located_error_iff.1 hown
      exact .own (.builtin hfound hvalues hbuiltin hfault)
    | none =>
      simp only [hbuiltin] at hown
      obtain rfl := Eval.fail_error_iff.1 hown
      exact .own (.unknownFunction hfound hvalues hbuiltin)

theorem arises_call {s : Span} {function : Expr} {args : List Expr}
    (hname : ∀ s n, function ≠ name s n)
    (h : (eval env (call s function args) m).1 = .error err) :
    Arises env (call s function args) m err := by
  have hcall : (call s function args).callsName = false := callsName_call hname
  rw [eval_call env s args hname] at h
  rcases Access.bind_error_iff.1 h with hfunction | ⟨callee, mid, hcallee, hrest⟩
  · exact .part (.part hcall .callFunction) hfunction
  rcases Access.bind_error_iff.1 hrest with hargs | ⟨values, last, hvalues, hown⟩
  · obtain ⟨e', m', hitem, hfails⟩ := evalItems_error_iff.1 hargs
    exact .part (.part hcall (.callArg hname hcallee hitem)) hfails
  · obtain ⟨fault, hfault, rfl⟩ := Eval.callValue_error_iff.1 hown
    exact .own (.call hname hcallee hvalues hfault)

/-- An error comes from the operation of the node itself or out of one part of it. -/
theorem arises_of_error (h : (eval env e m).1 = .error err) : Arises env e m err := by
  cases e with
  | null | bool | number | string =>
    rw [eval] at h
    cases h
  | name s n => exact arises_name h
  | list s items =>
    rw [eval, Access.map_error_iff] at h
    obtain ⟨e', m', hitem, hfails⟩ := evalItems_error_iff.1 h
    exact .part (.part rfl (.item hitem)) hfails
  | map s entries =>
    rw [eval, Access.map_error_iff] at h
    obtain ⟨e', m', hentry, hfails⟩ := evalEntries_error_iff.1 h
    exact .part (.part rfl (.entry hentry)) hfails
  | property s receiver n =>
    rw [eval] at h
    rcases Access.bind_error_iff.1 h with hreceiver | ⟨v, mid, hv, hown⟩
    · exact .part (.part rfl .propertyReceiver) hreceiver
    · obtain ⟨fault, hfault, rfl⟩ := Eval.located_error_iff.1 hown
      exact .own (.property hv hfault)
  | index s receiver key =>
    rw [eval] at h
    rcases Access.bind_error_iff.1 h with hreceiver | ⟨v, mid, hv, hrest⟩
    · exact .part (.part rfl .indexReceiver) hreceiver
    rcases Access.bind_error_iff.1 hrest with hkey | ⟨k, last, hk, hown⟩
    · exact .part (.part rfl (.indexKey hv)) hkey
    · obtain ⟨fault, hfault, rfl⟩ := Eval.located_error_iff.1 hown
      exact .own (.index hv hk hfault)
  | method s receiver n args => exact arises_method h
  | call s function args =>
    rcases eq_name_or_ne function with ⟨s', n, rfl⟩ | hne
    · exact arises_call_name h
    · exact arises_call hne h
  | closure s param body =>
    rw [eval] at h
    obtain rfl := Eval.fail_error_iff.1 h
    exact .own .closure
  | unary s op operand =>
    cases op with
    | not =>
      rw [eval, Access.map_error_iff] at h
      exact .part (.part rfl .unaryOperand) h
    | minus =>
      rw [eval] at h
      rcases Access.bind_error_iff.1 h with hoperand | ⟨v, mid, hv, hown⟩
      · exact .part (.part rfl .unaryOperand) hoperand
      · obtain ⟨fault, hfault, rfl⟩ := Eval.located_error_iff.1 hown
        exact .own (.minus hv hfault)
  | binary s op left right =>
    rcases binary_error_iff.1 h with hleft | ⟨v, mid, hv, ⟨hand, hor, hright⟩ | ⟨hand, hor, hown⟩⟩
    · exact .part (.part rfl .binaryLeft) hleft
    · exact .part (.part rfl (.binaryRight hv hand hor)) hright
    · obtain ⟨w, last, fault, hw, hfault, rfl⟩ := hown
      exact .own (.binary hand hor hv hw hfault)
  | conditional s condition onTrue onFalse =>
    rw [eval] at h
    rcases Access.bind_error_iff.1 h with hcondition | ⟨v, mid, hv, hbranch⟩
    · exact .part (.part rfl .condition) hcondition
    split at hbranch
    case isTrue htrue => exact .part (.part rfl (.onTrue hv htrue)) hbranch
    case isFalse hfalse => exact .part (.part rfl (.onFalse hv hfalse)) hbranch

/-! ## From the whole to the node -/

/-- Evaluating `e` on `m` comes to evaluating `e'` on `m'`. -/
def ComesTo (env : Environment) (e : Expr) (m : Machine) (e' : Expr) (m' : Machine) : Prop :=
  Relation.ReflTransGen (fun p q : Expr × Machine ↦ Evaluates env p.1 p.2 q.1 q.2) (e, m) (e', m')

theorem Evaluates.enters (h : Evaluates env e m e' m') : Enters env e m e' m' := by
  cases h with
  | part _ henters => exact henters
  | nameArg hitem => exact .nameArg hitem

theorem ComesTo.reaches (h : ComesTo env e m e' m') : Reaches env e m e' m' :=
  Relation.ReflTransGen.mono (fun _ _ ↦ Evaluates.enters) _ _ h

theorem error_of_comesTo (h : ComesTo env e m e' m') (hfails : (eval env e' m').1 = .error err) :
    (eval env e m).1 = .error err := by
  unfold ComesTo at h
  generalize hp : (e, m) = p at h
  induction h using Relation.ReflTransGen.head_induction_on generalizing e m with
  | refl =>
    cases hp
    exact hfails
  | head hstep _ ih =>
    cases hp
    exact error_of_evaluates hstep (ih rfl)

/-- An evaluation fails with the failure of a node that it comes to, located at this node. -/
theorem eval_error_iff : (eval env e m).1 = .error err ↔
    ∃ e' m' failure, ComesTo env e m e' m' ∧ Fails env e' m' failure ∧
      err = failure.locate e'.span := by
  constructor
  · intro h
    -- On the size: the body of a closure is entered, which is no direct part of the method.
    induction hsize : sizeOf e using Nat.strongRecOn generalizing e m with
    | ind size ih =>
      subst hsize
      cases arises_of_error h with
      | own hfails => exact ⟨e, m, _, .refl, hfails, rfl⟩
      | part hpart hfails =>
        obtain ⟨e', m', failure, hcomes, hown⟩ := ih _ hpart.enters.sizeOf_lt hfails rfl
        exact ⟨e', m', failure, .head hpart hcomes, hown⟩
  · rintro ⟨e', m', failure, hcomes, hfails, rfl⟩
    exact error_of_comesTo hcomes (error_of_fails hfails)

/-! ## Errors of evaluations -/

theorem evaluate_fst (env : Environment) (e : Expr) :
    (e.evaluate env).1 = (eval env e ⟨[], ""⟩).1.mapError Failure.toEvalError := rfl

omit [HostCode] in
/-- What an error says of the failure of a node. -/
theorem toEvalError_locate_eq_iff {failure : Failure} {s : Span} {err : EvalError} :
    (failure.locate s).toEvalError = err ↔
      failure = .ordinary err.fault ∧ err.span = some s ∨ failure = .evaluation err := by
  obtain ⟨fault, span⟩ := err
  cases failure <;> simp [Failure.locate, Failure.toEvalError, eq_comm]

/-- The evaluation of the expression ends with the call of a function of the embedding program that
raises this very error about an expression. -/
def Raises (env : Environment) (e : Expr) (err : EvalError) : Prop :=
  ∃ e' m', ComesTo env e ⟨[], ""⟩ e' m' ∧ Fails env e' m' (.evaluation err)

theorem ComesTo.occurs (h : ComesTo env e ⟨[], ""⟩ e' m') : Occurs e m'.names e' := by
  obtain ⟨params, hoccurs, hnames⟩ := h.reaches.occurs
  rw [hnames]
  simpa [Machine.names] using hoccurs

theorem evaluate_error_iff {err : EvalError} : (e.evaluate env).1 = .error err ↔
    ∃ e' m', Occurs e m'.names e' ∧ ComesTo env e ⟨[], ""⟩ e' m' ∧
      (Fails env e' m' (.ordinary err.fault) ∧ err.span = some e'.span ∨
        Fails env e' m' (.evaluation err)) := by
  rw [evaluate_fst, Failure.mapError_eq_error_iff]
  simp only [eval_error_iff]
  constructor
  · rintro ⟨_, ⟨e', m', failure, hcomes, hfails, rfl⟩, herr⟩
    refine ⟨e', m', hcomes.occurs, hcomes, ?_⟩
    obtain ⟨rfl, hspan⟩ | rfl := toEvalError_locate_eq_iff.1 herr
    · exact .inl ⟨hfails, hspan⟩
    · exact .inr hfails
  · rintro ⟨e', m', -, hcomes, ⟨hfails, hspan⟩ | hfails⟩
    · exact ⟨_, ⟨e', m', _, hcomes, hfails, rfl⟩, toEvalError_locate_eq_iff.2 (.inl ⟨rfl, hspan⟩)⟩
    · exact ⟨_, ⟨e', m', _, hcomes, hfails, rfl⟩, rfl⟩

end Expr

/-! ## Functions of the embedding program -/

namespace Expr

/-- The embedding program has functions that fail with `error`, whatever they are called with. -/
@[reducible]
def refusing (error : ForeignError) : HostCode where
  answer _ _ := (.error error, "")

def gated : Environment := ⟨[("gate", .function (.foreign "gate" 0))]⟩

/-- The expression `-gate()`. -/
def gatedExpr : Expr :=
  unary ⟨1, 1, 0, 7⟩ .minus (call ⟨1, 2, 1, 7⟩ (name ⟨1, 2, 1, 5⟩ "gate") [])

/-- An error about an expression is not located anew, not even when it does not say where it is. -/
theorem evaluate_gated_raises (span : Option Span) :
    letI := refusing (.evaluation "closed" span)
    (gatedExpr.evaluate gated).1 = .error ⟨.reported "closed", span⟩ := rfl

end Expr

end ReleaseAudit
