import ReleaseAudit.Proofs.Expr.Locals
import ReleaseAudit.Proofs.Expr.Scope

/-!
# Free names

An expression means the same in two scopes that agree on its free names. So its evaluation depends
on the environment through the free names only, although every lookup below a closure goes by the
parameters first, and a call asks for its name before its arguments are evaluated.
-/

namespace ReleaseAudit

namespace Expr

/-- The scopes agree on the names in `bound` and on those that are free in `e` below `bound`. -/
def Agreeing (bound : List String) (e : Expr) (scope scope' : Scope) : Prop :=
  ∀ n, (n ∈ bound ∨ ∃ s, (n, s) ∈ freeOccurrences bound e) → scope n = scope' n

variable {bound : List String} {e : Expr} {scope scope' : Scope}

namespace Agreeing

theorem part {e' : Expr} (h : Agreeing bound e scope scope') (hpart : Part e [] e') :
    Agreeing bound e' scope scope' := by
  rintro n (hbound | ⟨s, hfree⟩)
  · exact h n (.inl hbound)
  · exact h n (.inr ⟨s, hpart.mem_freeOccurrences hfree⟩)

/-- Below a closure the scopes also agree on the parameter, whatever they held under its name. -/
theorem extend {s : Span} {param : String} {body : Expr}
    (h : Agreeing bound (closure s param body) scope scope') (v : Value) :
    Agreeing (param :: bound) body (scope.extend param v) (scope'.extend param v) := by
  intro n hn
  by_cases hparam : n = param
  · simp only [Scope.extend, hparam, if_true]
  · simp only [Scope.extend, hparam, if_false]
    rcases hn with hbound | ⟨s', hfree⟩
    · exact h n (.inl ((List.mem_cons.1 hbound).resolve_left hparam))
    · exact h n (.inr ⟨s', Part.closureBody.mem_freeOccurrences hfree⟩)

theorem name {s : Span} {n : String} (h : Agreeing bound (name s n) scope scope') :
    scope n = scope' n := by
  by_cases hbound : n ∈ bound
  · exact h n (.inl hbound)
  · exact h n (.inr ⟨s, by simp [freeOccurrences, hbound]⟩)

end Agreeing

variable [HostCode]

theorem meanings_congr {es : List Expr} (h : ∀ e ∈ es, meaning scope e = meaning scope' e) :
    meanings scope es = meanings scope' es := by
  induction es with
  | nil => rw [meanings, meanings]
  | cons e es ih =>
    obtain ⟨he, hes⟩ := List.forall_mem_cons.1 h
    rw [meanings, meanings, he, ih hes]

theorem entryMeanings_congr {es : List (String × Expr)}
    (h : ∀ k e, (k, e) ∈ es → meaning scope e = meaning scope' e) (d : Dict Value) :
    entryMeanings scope d es = entryMeanings scope' d es := by
  induction es generalizing d with
  | nil => rw [entryMeanings, entryMeanings]
  | cons entry es ih =>
    obtain ⟨k, e⟩ := entry
    rw [entryMeanings, entryMeanings, h k e List.mem_cons_self]
    exact bind_congr fun v ↦ ih (fun k' e' he' ↦ h k' e' (List.mem_cons_of_mem _ he')) _

theorem meaning_method_congr {s : Span} {receiver : Expr} {n : String} {args : List Expr}
    (hreceiver : meaning scope receiver = meaning scope' receiver)
    (hargs : ∀ e ∈ args, meaning scope e = meaning scope' e)
    (hbody : ∀ s param body, args = [closure s param body] →
      ∀ v, meaning (scope.extend param v) body = meaning (scope'.extend param v) body) :
    meaning scope (method s receiver n args) = meaning scope' (method s receiver n args) := by
  rcases eq_closure_or_ne args with ⟨s', param, body, rfl⟩ | hne
  · simp only [meaning, hreceiver, hbody s' param body rfl]
  · rw [meaning, meaning, hreceiver, meanings_congr hargs]
    · exact hne
    · exact hne

theorem meaning_call_congr {s : Span} {function : Expr} {args : List Expr}
    (hfunction : Agreeing bound function scope scope')
    (hmeaning : meaning scope function = meaning scope' function)
    (hargs : ∀ e ∈ args, meaning scope e = meaning scope' e) :
    meaning scope (call s function args) = meaning scope' (call s function args) := by
  rcases eq_name_or_ne function with ⟨s', n, rfl⟩ | hne
  · rw [meaning, meaning, meanings_congr hargs, hfunction.name]
  · rw [meaning, meaning, hmeaning, meanings_congr hargs]
    · exact hne
    · exact hne

/-- Scopes that agree on the free names of an expression give it the same meaning. -/
theorem meaning_congr (e : Expr) {bound : List String} {scope scope' : Scope}
    (h : Agreeing bound e scope scope') : meaning scope e = meaning scope' e := by
  cases e with
  | null | bool | number | string => rw [meaning, meaning]
  | name s n => rw [meaning, meaning, h.name]
  | list s items =>
    rw [meaning, meaning, meanings_congr fun e he ↦ meaning_congr e (h.part (.item he))]
  | map s entries =>
    have hentries (k : String) (e : Expr) (he : (k, e) ∈ entries) :
        meaning scope e = meaning scope' e :=
      have := (Part.entry (s := s) he).sizeOf_lt
      meaning_congr e (h.part (.entry he))
    rw [meaning, meaning, entryMeanings_congr hentries]
  | property s receiver n =>
    rw [meaning, meaning, meaning_congr receiver (h.part .propertyReceiver)]
  | index s receiver key =>
    rw [meaning, meaning, meaning_congr receiver (h.part .indexReceiver),
      meaning_congr key (h.part .indexKey)]
  | method s receiver n args =>
    have hargs (e : Expr) (he : e ∈ args) := meaning_congr e (h.part (.methodArg he))
    refine meaning_method_congr (meaning_congr receiver (h.part .methodReceiver)) hargs ?_
    rintro s' param body rfl v
    have hclosure := h.part (.methodArg List.mem_cons_self)
    exact meaning_congr body (hclosure.extend v)
  | call s function args =>
    have hfunction := h.part .callFunction
    have hargs (e : Expr) (he : e ∈ args) := meaning_congr e (h.part (.callArg he))
    exact meaning_call_congr hfunction (meaning_congr function hfunction) hargs
  | closure s param body => rw [meaning, meaning]
  | unary s op operand =>
    have hoperand := meaning_congr operand (h.part .unaryOperand)
    cases op with
    | not => rw [meaning, meaning, hoperand]
    | minus => rw [meaning, meaning, hoperand]
  | binary s op left right =>
    have hleft := meaning_congr left (h.part .binaryLeft)
    have hright := meaning_congr right (h.part .binaryRight)
    cases op <;> simp only [meaning, hleft, hright]
  | conditional s condition onTrue onFalse =>
    rw [meaning, meaning, meaning_congr condition (h.part .condition),
      meaning_congr onTrue (h.part .onTrue), meaning_congr onFalse (h.part .onFalse)]
termination_by e

omit [HostCode] in
/-- Around the same parameters, environments that agree on some names make scopes that do. -/
theorem around_congr {env env' : Environment} {n : String} (h : env.get? n = env'.get? n)
    (locals : List (String × Value)) :
    Scope.around env locals n = Scope.around env' locals n := by
  rw [Scope.around_apply, Scope.around_apply, h]

/-- Below any parameters, and with any text printed before, evaluation looks at the environment for
the free names alone. -/
theorem eval_congr {env env' : Environment}
    (h : ∀ n s, (n, s) ∈ freeOccurrences [] e → env.get? n = env'.get? n) (m : Machine) :
    eval env e m = eval env' e m := by
  have hagreeing : Agreeing [] e (Scope.around env m.locals) (Scope.around env' m.locals) := by
    rintro n (hbound | ⟨s, hfree⟩)
    · cases hbound
    · exact around_congr (h n s hfree) m.locals
  obtain ⟨⟨_, _⟩, rfl, rfl, hrun⟩ := eval_realizes env m.locals e m rfl
  obtain ⟨⟨_, _⟩, rfl, rfl, hrun'⟩ := eval_realizes env' m.locals e m rfl
  rw [hrun, hrun', meaning_congr e hagreeing]

/-- Two environments that hold the same under every free name of an expression give it the same
value or the same error, and the same text is printed. -/
theorem evaluate_congr {env env' : Environment}
    (h : ∀ n s, (n, s) ∈ e.freeNames → env.get? n = env'.get? n) :
    e.evaluate env = e.evaluate env' := by
  have hfree (n : String) (s : Span) (hmem : (n, s) ∈ freeOccurrences [] e) :
      env.get? n = env'.get? n := by
    obtain ⟨s', hfirst⟩ := exists_mem_freeNames hmem
    exact h n s' hfirst
  rw [evaluate, evaluate, eval_congr hfree]

end Expr

namespace Expr

/-- The environment `listed` with another name, that of the parameter in `listedExpr`. -/
def listedWide : Environment := ⟨listed.entries ++ [("w", .string "2.0")]⟩

theorem evaluate_listed_congr :
    letI := HostCode.none
    (∀ n s, (n, s) ∈ listedExpr.freeNames → listed.get? n = listedWide.get? n) ∧
      listed.get? "w" ≠ listedWide.get? "w" ∧
      listedExpr.evaluate listed = listedExpr.evaluate listedWide := by
  let code : HostCode := HostCode.none
  have hagree (n : String) (s : Span) (h : (n, s) ∈ listedExpr.freeNames) :
      listed.get? n = listedWide.get? n := by
    have hnames : listedExpr.freeNames = [("v", ⟨1, 1, 0, 1⟩), ("len", ⟨1, 10, 9, 12⟩)] := by decide
    rw [hnames] at h
    rcases List.mem_pair.1 h with heq | heq
    · cases heq
      rfl
    · cases heq
      rfl
  refine ⟨hagree, ?_, evaluate_congr hagree⟩
  intro heq
  cases heq

end Expr

end ReleaseAudit
