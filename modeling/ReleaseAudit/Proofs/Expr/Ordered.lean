import ReleaseAudit.Proofs.Expr.Selection
import ReleaseAudit.Proofs.Value.Call
import ReleaseAudit.Proofs.Value.Equality
import ReleaseAudit.Proofs.Value.Sorting

/-!
# Maps in order

Where the maps of an environment are in order, so are those that expressions are evaluated to: every
operation on values either builds a new map entry by entry or passes on a part of a map that it was given.
-/

namespace ReleaseAudit

namespace Value

variable {ε ε' α β : Type} {P : α → Prop} {Q : β → Prop} {e : ε} {a : α} {result : Except ε α}
  {v w : Value} {items : List Value} {d : Dict Value}

/-- The result, where there is one, satisfies `P`. -/
def Builds (P : α → Prop) (result : Except ε α) : Prop := ∀ a, result = .ok a → P a

theorem builds_ok (h : P a) : Builds P (.ok a : Except ε α) := by
  intro b heq
  cases heq
  exact h

theorem builds_error : Builds P (.error e : Except ε α) := nofun

theorem Builds.bind {next : α → Except ε β} (h : Builds P result)
    (hnext : ∀ a, P a → Builds Q (next a)) : Builds Q (result >>= next) := by
  cases result with
  | ok a => exact hnext a (h a rfl)
  | error => exact builds_error

theorem Builds.map {f : α → β} (h : Builds P result) (hf : ∀ a, P a → Q (f a)) :
    Builds Q (result.map f) := by
  cases result with
  | ok a => exact builds_ok (hf a (h a rfl))
  | error => exact builds_error

theorem Builds.mapError {f : ε → ε'} (h : Builds P result) : Builds P (result.mapError f) :=
  fun a ha ↦ h a (Failure.mapError_eq_ok_iff.1 ha)

theorem builds_true (result : Except ε α) : Builds (fun _ ↦ True) result := fun _ _ ↦ trivial

theorem builds_bind {next : α → Except ε β} (hnext : ∀ a, Builds Q (next a)) :
    Builds Q (result >>= next) := (builds_true result).bind fun a _ ↦ hnext a

theorem builds_map {f : α → β} (hf : ∀ a, Q (f a)) : Builds Q (result.map f) :=
  (builds_true result).map fun a _ ↦ hf a

/-! ## Parts of values -/

theorem Ordered.of_mem (h : (Value.list items).Ordered) : ∀ v ∈ items, v.Ordered := by
  cases h with
  | list h => exact h

theorem Ordered.sorted (h : (Value.map d).Ordered) : d.Sorted := by
  cases h with
  | map h => exact h

theorem Ordered.of_mem_entries (h : (Value.map d).Ordered) : ∀ entry ∈ d, entry.2.Ordered := by
  cases h with
  | map _ h => exact h

theorem ordered_getD {o : Option Value} (h : ∀ v ∈ o, v.Ordered) : (o.getD null).Ordered := by
  cases o with
  | none => exact .null
  | some v => exact h v rfl

theorem Ordered.get? (h : (Value.map d).Ordered) (key : String) :
    ((Dict.get? d key).getD Value.null).Ordered :=
  ordered_getD fun v hv ↦ h.of_mem_entries (key, v) (h.sorted.get?_eq_some_iff.1 hv)

theorem ordered_ofLength (n : Nat) : (ofLength n).Ordered := .number _

theorem ordered_ofStrings (texts : List String) : (ofStrings texts).Ordered :=
  .list (List.forall_mem_map.2 fun s _ ↦ .string s)

/-! ## Access and methods -/

theorem builds_property (h : v.Ordered) (name : String) : Builds Ordered (v.property name) := by
  unfold property
  split
  · exact builds_ok (h.get? name)
  · exact builds_ok (ordered_ofLength _)
  · exact builds_ok (ordered_ofLength _)
  · exact builds_error

theorem builds_index (h : v.Ordered) (key : Value) : Builds Ordered (v.index key) := by
  unfold index
  split
  · exact builds_ok (h.get? _)
  · dsimp only
    split
    next item hitem =>
      split at hitem
      · cases hitem
      · exact builds_ok (h.of_mem item (List.mem_of_getElem? hitem))
    next => exact builds_error
  · dsimp only
    split
    · exact builds_ok (Ordered.string _)
    · exact builds_error
  · exact builds_error

theorem builds_stringMethod (s name : String) (args : List Value) :
    Builds Ordered (stringMethod s name args) := by
  unfold stringMethod
  dsimp only
  split
  all_goals first
    | exact builds_error
    | exact builds_bind fun _ ↦ builds_ok (Ordered.string _)
    | exact builds_bind fun _ ↦ builds_ok (Ordered.bool _)
    | exact builds_bind fun _ ↦ builds_ok (Ordered.number _)
    | exact builds_bind fun _ ↦ builds_bind fun _ ↦ builds_ok (Ordered.bool _)
    | exact builds_bind fun _ ↦ builds_bind fun _ ↦ builds_ok (ordered_ofStrings _)
    | exact builds_bind fun _ ↦ builds_bind fun _ ↦ builds_map Ordered.bool
    | exact builds_bind fun _ ↦ builds_bind fun _ ↦ builds_bind fun _ ↦ builds_ok (Ordered.string _)

theorem builds_numberMethod (x : Float) (name : String) (args : List Value) :
    Builds Ordered (numberMethod x name args) := by
  refine builds_bind fun _ ↦ ?_
  split
  all_goals first
    | exact builds_ok (Ordered.number _)
    | exact builds_error

theorem builds_listMethod (h : (list items).Ordered) (name : String) (args : List Value) :
    Builds Ordered (listMethod items name args) := by
  have hfirst : (items.head?.getD null).Ordered :=
    ordered_getD fun v hv ↦ h.of_mem v (List.mem_of_head? hv)
  have hlast : (items.getLast?.getD null).Ordered :=
    ordered_getD fun v hv ↦ h.of_mem v (List.mem_of_getLast? hv)
  have hreverse : (list items.reverse).Ordered :=
    .list fun v hv ↦ h.of_mem v (List.mem_reverse.1 hv)
  have hsorted : (list (Value.sorted items)).Ordered :=
    .list fun v hv ↦ h.of_mem v ((perm_sorted items).mem_iff.1 hv)
  unfold listMethod
  split
  all_goals first
    | exact builds_ok hfirst
    | exact builds_ok hlast
    | exact builds_ok hreverse
    | exact builds_ok hsorted
    | exact builds_bind fun _ ↦ builds_ok (Ordered.number _)
    | exact builds_bind fun _ ↦ builds_ok (Ordered.bool _)
    | exact builds_bind fun _ ↦ builds_ok (Ordered.string _)
    | split <;> exact builds_error

theorem builds_mapMethod (h : (map d).Ordered) (name : String) (args : List Value) :
    Builds Ordered (mapMethod d name args) := by
  have hvalues : (list d.values).Ordered := .list (List.forall_mem_map.2 h.of_mem_entries)
  unfold mapMethod
  split
  all_goals first
    | exact builds_error
    | exact builds_bind fun _ ↦ builds_ok (ordered_ofStrings _)
    | exact builds_bind fun _ ↦ builds_ok hvalues
    | exact builds_bind fun _ ↦ builds_ok (Ordered.number _)
    | exact builds_bind fun _ ↦ builds_bind fun _ ↦ builds_ok (Ordered.bool _)

theorem builds_method (h : v.Ordered) (name : String) (args : List Value) :
    Builds Ordered (v.method name args) := by
  unfold method
  split
  · exact builds_stringMethod _ name args
  · exact builds_numberMethod _ name args
  · exact builds_listMethod h name args
  · exact builds_mapMethod h name args
  · exact builds_error

/-! ## Functions and operators -/

theorem builds_splitArgs (args : List Value) : Builds Ordered (HostFunction.splitArgs args) := by
  unfold HostFunction.splitArgs
  split
  · exact builds_bind fun _ ↦ builds_bind fun _ ↦ builds_ok (ordered_ofStrings _)
  · exact builds_error

theorem builds_checkMessage (start : String) (args : List Value) :
    Builds Ordered (HostFunction.checkMessage start args) := by
  unfold HostFunction.checkMessage
  split
  · split
    · exact builds_ok (Ordered.bool _)
    · exact builds_error
  · exact builds_ok (Ordered.bool _)
  · exact builds_error

/-- What the functions of the embedding program give comes in order. -/
theorem builds_call [HostCode] (f : HostFunction) (args : List Value) :
    Builds Ordered (f.call args).1 := by
  refine Builds.mapError ?_
  cases f with
  | println => exact builds_ok Ordered.null
  | split => exact (builds_splitArgs args).mapError
  | validCommitMsg start => exact (builds_checkMessage start args).mapError
  | foreign name key => exact (builds_map OrderedValue.ordered).mapError

theorem builds_builtin (b : Builtin) (args : List Value) : Builds Ordered (b.call args) := by
  unfold Builtin.call
  split
  · unfold Builtin.apply
    split
    all_goals first
      | exact builds_error
      | exact builds_ok (ordered_ofStrings _)
      | exact builds_ok (Ordered.number _)
      | exact builds_ok (Ordered.string _)
      | exact builds_map fun _ ↦ Ordered.string _
      | exact builds_map fun _ ↦ Ordered.number _
  · exact builds_error

theorem builds_negated (v : Value) : Builds Ordered v.negated := by
  unfold negated
  split
  · exact builds_ok (Ordered.number _)
  · exact builds_error

theorem builds_addition (hv : v.Ordered) (hw : w.Ordered) : Builds Ordered (addition v w) := by
  unfold addition
  split
  · exact builds_ok (Ordered.number _)
  · exact builds_ok (Ordered.string _)
  · exact builds_ok (Ordered.string _)
  · exact builds_ok (Ordered.list (List.forall_mem_append.2 ⟨hv.of_mem, hw.of_mem⟩))
  · exact builds_error

theorem builds_arithmetic (op : BinaryOp) (f : Float → Float → Except Fault Float) (v w : Value) :
    Builds Ordered (arithmetic op f v w) := by
  unfold arithmetic
  split
  · exact builds_map Ordered.number
  · exact builds_error

theorem builds_textTest (op : BinaryOp) (f : String → String → Except Fault Bool) (v w : Value) :
    Builds Ordered (textTest op f v w) := by
  unfold textTest
  split
  · exact builds_map Ordered.bool
  · exact builds_error

theorem builds_binary (op : BinaryOp) (hv : v.Ordered) (hw : w.Ordered) :
    Builds Ordered (binary op v w) := by
  cases op with
  | add => exact builds_addition hv hw
  | sub | mul | div | mod => exact builds_arithmetic _ _ v w
  | eq | ne | and | or => exact builds_ok (Ordered.bool _)
  | lt | le | gt | ge | «in» | notIn | contains => exact builds_map fun _ ↦ Ordered.bool _
  | startsWith | endsWith | «matches» => exact builds_textTest _ _ v w

end Value

namespace Meaning

open Value (Builds Ordered builds_ok builds_error)

variable {α β : Type} {P : α → Prop} {Q : β → Prop} {x : Meaning α}

theorem builds_bind {next : α → Meaning β} (h : Builds P x.result)
    (hnext : ∀ a, P a → Builds Q (next a).result) : Builds Q (x >>= next).result := by
  rw [result_bind]
  exact h.bind hnext

theorem builds_settle {span : Span} {result : Except Failure α} (h : Builds P result) :
    Builds P (settle span result).result := by
  cases result with
  | ok a => exact builds_ok (h a rfl)
  | error => exact builds_error

theorem builds_located {span : Span} {result : Except Fault α} (h : Builds P result) :
    Builds P (located span result).result := builds_settle h.mapError

variable [HostCode]

theorem builds_callHost (span : Span) (f : HostFunction) (args : List Value) :
    Builds Ordered (callHost span f args).result :=
  builds_bind (Value.builds_true _) fun _ _ ↦ builds_settle (Value.builds_call f args)

theorem builds_callValue (span : Span) (callee : Value) (args : List Value) :
    Builds Ordered (callValue span callee args).result := by
  cases callee with
  | function f => exact builds_callHost span f args
  | null | bool | number | string | list | map => exact builds_error

theorem builds_callMethod {v : Value} (h : v.Ordered) (span : Span) (name : String)
    (args : List Value) : Builds Ordered (callMethod span v name args).result := by
  unfold callMethod
  split
  · exact builds_callHost span _ args
  · exact builds_located (Value.builds_method h name args)

end Meaning

namespace ClosureMethod

open Value (Builds Ordered builds_ok)

variable {body : Value → Meaning Value} {items results : List Value}

theorem mem_of_mem_kept {v : Value} (h : v ∈ kept items results) : v ∈ items := by
  obtain ⟨⟨_, w⟩, hmem, rfl⟩ := List.mem_map.1 h
  exact (List.of_mem_zip (List.mem_filter.1 hmem).1).1

theorem builds_findM? {ε : Type} (p : Value → Except ε Bool) (items : List Value) :
    Builds (fun found ↦ ∀ v ∈ found, v ∈ items) (items.findM? p) := by
  induction items with
  | nil => exact builds_ok nofun
  | cons v items ih =>
    rw [List.findM?]
    refine Value.builds_bind fun holds ↦ ?_
    cases holds with
    | true =>
      refine builds_ok fun w hw ↦ ?_
      cases hw
      exact List.mem_cons_self
    | false => exact fun found hfound w hw ↦ List.mem_cons_of_mem v (ih found hfound w hw)

theorem builds_mapM (h : ∀ v ∈ items, Builds Ordered (body v).result) :
    Builds (fun results ↦ ∀ w ∈ results, w.Ordered) (items.mapM body).result := by
  induction items with
  | nil => exact builds_ok (List.forall_mem_nil _)
  | cons v items ih =>
    obtain ⟨hv, hitems⟩ := List.forall_mem_cons.1 h
    rw [List.mapM_cons]
    exact Meaning.builds_bind hv fun w hw ↦ Meaning.builds_bind (ih hitems) fun ws hws ↦
      builds_ok (List.forall_mem_cons.2 ⟨hw, hws⟩)

/-- The methods with a closure return items, results of the closure, truth values and numbers. -/
theorem builds_meaning (method : ClosureMethod) (hitems : (Value.list items).Ordered)
    (hbody : ∀ v ∈ items, Builds Ordered (body v).result) :
    Builds Ordered (method.meaning body items).result := by
  cases method with
  | filter =>
    rw [result_filter]
    exact Value.builds_bind fun results ↦
      builds_ok (Ordered.list fun v hv ↦ hitems.of_mem v (mem_of_mem_kept hv))
  | map => exact Meaning.builds_bind (builds_mapM hbody) fun ws hws ↦ builds_ok (Ordered.list hws)
  | find =>
    rw [result_find]
    exact (builds_findM? _ items).bind fun found hfound ↦
      builds_ok (Value.ordered_getD fun v hv ↦ hitems.of_mem v (hfound v hv))
  | any =>
    rw [result_any]
    exact Value.builds_bind fun _ ↦ builds_ok (Ordered.bool _)
  | all =>
    rw [result_all]
    exact Value.builds_bind fun _ ↦ builds_ok (Ordered.bool _)
  | count =>
    rw [result_count]
    exact Value.builds_bind fun _ ↦ builds_ok (Value.ordered_ofLength _)

end ClosureMethod

namespace Scope

/-- All values that names stand for are in order. -/
def Ordered (scope : Scope) : Prop := ∀ n v, scope n = some (.value v) → v.Ordered

theorem Ordered.extend {scope : Scope} (h : scope.Ordered) {param : String} {v : Value}
    (hv : v.Ordered) : (scope.extend param v).Ordered := by
  intro n w hw
  unfold Scope.extend at hw
  split at hw
  · cases hw
    exact hv
  · exact h n w hw

theorem ordered_outermost {env : Environment} (h : ∀ n v, env.get? n = some v → v.Ordered) :
    (outermost env).Ordered := by
  intro n v hv
  unfold outermost at hv
  split at hv
  next w hw =>
    cases hv
    exact h n v hw
  next => cases hname : Builtin.ofName? n <;> simp [hname] at hv

theorem ordered_around {env : Environment} (h : ∀ n v, env.get? n = some v → v.Ordered)
    {locals : List (String × Value)} (hlocals : ∀ entry ∈ locals, entry.2.Ordered) :
    (around env locals).Ordered := by
  induction locals with
  | nil => exact ordered_outermost h
  | cons entry locals ih =>
    obtain ⟨hentry, hlocals⟩ := List.forall_mem_cons.1 hlocals
    exact (ih hlocals).extend hentry

end Scope

namespace Expr

open Value (Builds Ordered builds_ok builds_error)

variable [HostCode] {scope : Scope}

theorem builds_meanings {es : List Expr}
    (h : ∀ e ∈ es, Builds Ordered (meaning scope e).result) :
    Builds (fun vs ↦ ∀ v ∈ vs, v.Ordered) (meanings scope es).result := by
  induction es with
  | nil =>
    rw [meanings]
    exact builds_ok (List.forall_mem_nil _)
  | cons e es ih =>
    obtain ⟨he, hes⟩ := List.forall_mem_cons.1 h
    rw [meanings]
    exact Meaning.builds_bind he fun v hv ↦ Meaning.builds_bind (ih hes) fun vs hvs ↦
      builds_ok (List.forall_mem_cons.2 ⟨hv, hvs⟩)

/-- Setting keys one after the other keeps a map in order. -/
theorem builds_entryMeanings {es : List (String × Expr)} {d : Dict Value}
    (hd : (Value.map d).Ordered)
    (h : ∀ k e, (k, e) ∈ es → Builds Ordered (meaning scope e).result) :
    Builds (fun d ↦ (Value.map d).Ordered) (entryMeanings scope d es).result := by
  induction es generalizing d with
  | nil =>
    rw [entryMeanings]
    exact builds_ok hd
  | cons entry es ih =>
    obtain ⟨k, e⟩ := entry
    rw [entryMeanings]
    refine Meaning.builds_bind (h k e List.mem_cons_self) fun v hv ↦ ?_
    refine ih (Ordered.map hd.sorted.insert fun entry hentry ↦ ?_)
      fun k' e' he' ↦ h k' e' (List.mem_cons_of_mem _ he')
    obtain rfl | hmem := Dict.mem_insert hentry
    · exact hv
    · exact hd.of_mem_entries entry hmem

theorem builds_method {s : Span} {receiver : Expr} {n : String} {args : List Expr}
    (hreceiver : Builds Ordered (meaning scope receiver).result)
    (hbody : ∀ s param body, args = [closure s param body] → ∀ v : Value, v.Ordered →
      Builds Ordered (meaning (scope.extend param v) body).result) :
    Builds Ordered (meaning scope (method s receiver n args)).result := by
  rcases eq_closure_or_ne args with ⟨s', param, body, rfl⟩ | hne
  · rw [meaning]
    refine Meaning.builds_bind hreceiver fun v hv ↦ ?_
    split
    next items =>
      exact ClosureMethod.builds_meaning _ hv fun item hitem ↦
        hbody s' param body rfl item (hv.of_mem item hitem)
    next => exact builds_error
  · rw [meaning]
    · refine Meaning.builds_bind hreceiver fun v hv ↦ ?_
      rw [Meaning.result_bind]
      exact Value.builds_bind fun _ ↦ Meaning.builds_callMethod hv s n _
    · exact hne

theorem builds_call {s : Span} {function : Expr} {args : List Expr} :
    Builds Ordered (meaning scope (call s function args)).result := by
  rcases eq_name_or_ne function with ⟨s', n, rfl⟩ | hne
  · rw [meaning, Meaning.result_bind]
    refine Value.builds_bind fun values ↦ ?_
    split
    · exact Meaning.builds_callValue s _ values
    · exact Meaning.builds_located (Value.builds_builtin _ values)
    · exact builds_error
  · rw [meaning, Meaning.result_bind]
    · refine Value.builds_bind fun callee ↦ ?_
      rw [Meaning.result_bind]
      exact Value.builds_bind fun values ↦ Meaning.builds_callValue s callee values
    · exact hne

theorem builds_binary {s : Span} {op : BinaryOp} {left right : Expr}
    (hleft : Builds Ordered (meaning scope left).result)
    (hright : Builds Ordered (meaning scope right).result) :
    Builds Ordered (meaning scope (binary s op left right)).result := by
  by_cases hand : op = .and
  · subst hand
    rw [meaning]
    refine Meaning.builds_bind hleft fun v _ ↦ ?_
    split
    · exact builds_ok (Ordered.bool _)
    · exact Meaning.builds_bind hright fun _ _ ↦ builds_ok (Ordered.bool _)
  by_cases hor : op = .or
  · subst hor
    rw [meaning]
    refine Meaning.builds_bind hleft fun v _ ↦ ?_
    split
    · exact builds_ok (Ordered.bool _)
    · exact Meaning.builds_bind hright fun _ _ ↦ builds_ok (Ordered.bool _)
  rw [meaning]
  · exact Meaning.builds_bind hleft fun v hv ↦ Meaning.builds_bind hright fun w hw ↦
      Meaning.builds_located (Value.builds_binary op hv hw)
  · exact hand
  · exact hor

/-- In a scope of values in order an expression has a value in order. -/
theorem meaning_ordered {scope : Scope} (h : scope.Ordered) (e : Expr) :
    Builds Ordered (meaning scope e).result := by
  cases e with
  | null =>
    rw [meaning]
    exact builds_ok Ordered.null
  | bool =>
    rw [meaning]
    exact builds_ok (Ordered.bool _)
  | number =>
    rw [meaning]
    exact builds_ok (Ordered.number _)
  | string =>
    rw [meaning]
    exact builds_ok (Ordered.string _)
  | name s n =>
    rw [meaning]
    split
    next v hv => exact builds_ok (h n v hv)
    next => exact builds_error
    next => exact builds_error
  | list s items =>
    rw [meaning]
    exact Meaning.builds_bind (builds_meanings fun e _ ↦ meaning_ordered h e) fun vs hvs ↦
      builds_ok (Ordered.list hvs)
  | map s entries =>
    rw [meaning]
    have hentries (k : String) (e : Expr) (he : (k, e) ∈ entries) :
        Builds Ordered (meaning scope e).result :=
      have := sizeOf_lt_of_mem_entries he
      meaning_ordered h e
    have hempty : (Value.map []).Ordered := Ordered.map .nil (List.forall_mem_nil _)
    exact Meaning.builds_bind (builds_entryMeanings hempty hentries) fun d hd ↦ builds_ok hd
  | property s receiver n =>
    rw [meaning]
    exact Meaning.builds_bind (meaning_ordered h receiver) fun v hv ↦
      Meaning.builds_located (Value.builds_property hv n)
  | index s receiver key =>
    rw [meaning]
    exact Meaning.builds_bind (meaning_ordered h receiver) fun v hv ↦
      Meaning.builds_bind (meaning_ordered h key) fun k _ ↦
        Meaning.builds_located (Value.builds_index hv k)
  | method s receiver n args =>
    refine builds_method (meaning_ordered h receiver) ?_
    rintro s' param body rfl v hv
    exact meaning_ordered (h.extend hv) body
  | call s function args => exact builds_call
  | closure s param body =>
    rw [meaning]
    exact builds_error
  | unary s op operand =>
    cases op with
    | not =>
      rw [meaning]
      exact Meaning.builds_bind (meaning_ordered h operand) fun _ _ ↦ builds_ok (Ordered.bool _)
    | minus =>
      rw [meaning]
      exact Meaning.builds_bind (meaning_ordered h operand) fun v _ ↦
        Meaning.builds_located (Value.builds_negated v)
  | binary s op left right =>
    exact builds_binary (meaning_ordered h left) (meaning_ordered h right)
  | conditional s condition onTrue onFalse =>
    rw [meaning]
    refine Meaning.builds_bind (meaning_ordered h condition) fun _ _ ↦ ?_
    split
    · exact meaning_ordered h onTrue
    · exact meaning_ordered h onFalse
termination_by e

/-- Evaluation below parameters in order, in an environment in order, has a result in order. -/
theorem eval_ordered {env : Environment} (henv : ∀ n v, env.get? n = some v → v.Ordered) {m : Machine}
    (hlocals : ∀ entry ∈ m.locals, entry.2.Ordered) (e : Expr) : Builds Ordered (eval env e m).1 := by
  rw [result_eval]
  exact meaning_ordered (Scope.ordered_around henv hlocals) e

theorem evaluate_ordered {env : Environment} (henv : ∀ n v, env.get? n = some v → v.Ordered) (e : Expr) :
    Builds Ordered (evaluate env e).1 := (eval_ordered henv (List.forall_mem_nil _) e).mapError

/-- Of two results that are compared either one may come first. -/
theorem equals_results_comm {env : Environment} (henv : ∀ n v, env.get? n = some v → v.Ordered)
    {e e' : Expr} {v w : Value} (hv : (evaluate env e).1 = .ok v) (hw : (evaluate env e').1 = .ok w) :
    Value.equals v w = Value.equals w v := by
  have hordered : v.Ordered := evaluate_ordered henv e v hv
  have hordered' : w.Ordered := evaluate_ordered henv e' w hw
  apply Bool.eq_iff_iff.2
  exact ⟨hordered.equals_symm hordered', hordered'.equals_symm hordered⟩

end Expr

end ReleaseAudit
