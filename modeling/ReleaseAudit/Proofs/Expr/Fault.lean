import ReleaseAudit.Expr.Eval
import ReleaseAudit.Proofs.Value.Call

/-!
# Faults of names

That a name is not known is said by the evaluator only: no operation on values and no host function
fails with such a fault.
-/

namespace ReleaseAudit

/-- A name or a function is not known. -/
def Fault.IsUnresolved : Fault → Prop
  | unknownName _ | unknownFunction _ => True
  | _ => False

namespace Value

variable {α β : Type}

/-- A result that is not for want of a name. -/
def Resolved (result : Except Fault α) : Prop :=
  ∀ fault, result = .error fault → ¬ fault.IsUnresolved

theorem resolved_ok (a : α) : Resolved (.ok a) := by
  intro fault h
  cases h

theorem resolved_error {fault : Fault} (h : ¬ fault.IsUnresolved) :
    Resolved (.error fault : Except Fault α) := by
  intro fault' heq
  cases heq
  exact h

theorem Resolved.map {result : Except Fault α} (h : Resolved result) (f : α → β) :
    Resolved (result.map f) := by
  cases result with
  | ok a => exact resolved_ok (f a)
  | error fault => exact resolved_error (h fault rfl)

theorem Resolved.bind {result : Except Fault α} {next : α → Except Fault β} (h : Resolved result)
    (hnext : ∀ a, Resolved (next a)) : Resolved (result >>= next) := by
  cases result with
  | ok a => exact hnext a
  | error fault => exact resolved_error (h fault rfl)

/-! ## Access -/

theorem resolved_toText (v : Value) : Resolved v.toText := by
  cases v <;> first | exact resolved_ok _ | exact resolved_error id

theorem resolved_toNumber (v : Value) : Resolved v.toNumber := by
  unfold toNumber
  split
  · exact resolved_ok _
  · split
    · exact resolved_ok _
    · exact resolved_error id
  · exact resolved_error id

theorem resolved_property (v : Value) (name : String) : Resolved (v.property name) := by
  unfold property
  split
  · exact resolved_ok _
  · exact resolved_ok _
  · exact resolved_ok _
  · exact resolved_error id

theorem resolved_index (v key : Value) : Resolved (v.index key) := by
  unfold index
  split
  · exact resolved_ok _
  · dsimp only
    split
    · exact resolved_ok _
    · exact resolved_error id
  · dsimp only
    split
    · exact resolved_ok _
    · exact resolved_error id
  · exact resolved_error id

/-! ## Methods -/

theorem resolved_expectArgs (method : String) (args : List Value) (count : Nat) :
    Resolved (expectArgs method args count) := by
  unfold expectArgs
  split
  · exact resolved_ok _
  · exact resolved_error id

theorem resolved_matchesPattern (text source : String) : Resolved (matchesPattern text source) := by
  unfold matchesPattern
  split
  · exact resolved_ok _
  · exact resolved_error id

/-- A method that only counts its arguments. -/
theorem resolved_counted (method : String) (args : List Value) (count : Nat) (v : Value) :
    Resolved (do expectArgs method args count; return v) :=
  (resolved_expectArgs method args count).bind fun _ ↦ resolved_ok v

/-- A method of one text. -/
theorem resolved_ofText (method : String) (args : List Value) {f : String → Except Fault Value}
    (hf : ∀ text, Resolved (f text)) :
    Resolved (do expectArgs method args 1; f (← (args.headD null).toText)) :=
  (resolved_expectArgs method args 1).bind fun _ ↦ (resolved_toText _).bind hf

theorem resolved_stringMethod (s name : String) (args : List Value) :
    Resolved (stringMethod s name args) := by
  unfold stringMethod
  dsimp only
  split
  all_goals first
    | exact resolved_counted _ args 0 _
    | exact resolved_ofText _ args fun text ↦ resolved_ok _
    | exact resolved_ofText _ args fun text ↦ (resolved_matchesPattern s text).map _
    | exact (resolved_expectArgs _ args 2).bind fun _ ↦ (resolved_toText _).bind fun _ ↦
        (resolved_toText _).bind fun _ ↦ resolved_ok _
    | exact resolved_error id

theorem resolved_numberMethod (x : Float) (name : String) (args : List Value) :
    Resolved (numberMethod x name args) := by
  refine (resolved_expectArgs name args 0).bind fun _ ↦ ?_
  split
  · exact resolved_ok _
  · exact resolved_ok _
  · exact resolved_ok _
  · exact resolved_ok _
  · exact resolved_error id

theorem resolved_listMethod (items : List Value) (name : String) (args : List Value) :
    Resolved (listMethod items name args) := by
  have hjoin : Resolved ((args.head?.map toText).getD (.ok ", ")) := by
    cases args with
    | nil => exact resolved_ok _
    | cons v vs => exact resolved_toText v
  unfold listMethod
  split
  all_goals first
    | exact resolved_counted _ args _ _
    | exact resolved_ok _
    | exact hjoin.bind fun _ ↦ resolved_ok _
    | split <;> exact resolved_error id

theorem resolved_mapMethod (entries : Dict Value) (name : String) (args : List Value) :
    Resolved (mapMethod entries name args) := by
  unfold mapMethod
  split
  all_goals first
    | exact resolved_counted _ args _ _
    | exact resolved_ofText _ args fun text ↦ resolved_ok _
    | exact resolved_error id

theorem resolved_method (v : Value) (name : String) (args : List Value) :
    Resolved (v.method name args) := by
  unfold method
  split
  · exact resolved_stringMethod _ name args
  · exact resolved_numberMethod _ name args
  · exact resolved_listMethod _ name args
  · exact resolved_mapMethod _ name args
  · exact resolved_error id

/-! ## Functions and operators -/

/-- A host function says that it failed, or what the embedding program says. -/
theorem resolved_call [HostCode] {f : HostFunction} {args : List Value} {failure : Failure}
    (h : (f.call args).1 = .error failure) : ¬ failure.toEvalError.fault.IsUnresolved := by
  obtain ⟨cause, hcause, rfl⟩ := HostFunction.call_error_iff.1 h
  cases cause with
  | ordinary => exact id
  | evaluation err =>
    obtain ⟨_, _, text, -, hfault, -⟩ := HostFunction.exists_foreign_of_answer hcause
    change ¬ err.fault.IsUnresolved
    rw [hfault]
    exact id

theorem resolved_builtin (b : Builtin) (args : List Value) : Resolved (b.call args) := by
  unfold Builtin.call
  split
  · unfold Builtin.apply
    split
    all_goals first
      | exact resolved_ok _
      | exact (resolved_toText _).map _
      | exact (resolved_toNumber _).map _
      | exact resolved_error id
  · exact resolved_error id

theorem resolved_negated (v : Value) : Resolved v.negated := by
  unfold negated
  split
  · exact resolved_ok _
  · exact resolved_error id

theorem resolved_addition (v w : Value) : Resolved (addition v w) := by
  unfold addition
  split
  all_goals first | exact resolved_ok _ | exact resolved_error id

theorem resolved_arithmetic (op : BinaryOp) {f : Float → Float → Except Fault Float}
    (hf : ∀ x y, Resolved (f x y)) (v w : Value) : Resolved (arithmetic op f v w) := by
  unfold arithmetic
  split
  · exact (hf _ _).map _
  · exact resolved_error id

theorem resolved_compare (v w : Value) : Resolved (v.compare w) := by
  unfold compare
  split
  · unfold compareNumbers
    repeat' split
    all_goals first | exact resolved_ok _ | exact resolved_error id
  · exact resolved_ok _
  · exact resolved_error id

theorem resolved_holds (haystack needle : Value) : Resolved (haystack.holds needle) := by
  unfold holds
  split
  all_goals first | exact resolved_ok _ | exact resolved_error id

theorem resolved_textTest (op : BinaryOp) {f : String → String → Except Fault Bool}
    (hf : ∀ s t, Resolved (f s t)) (v w : Value) : Resolved (textTest op f v w) := by
  unfold textTest
  split
  · exact (hf _ _).map _
  · exact resolved_error id

theorem resolved_binary (op : BinaryOp) (v w : Value) : Resolved (binary op v w) := by
  have hnonzero {fault : Fault} (h : ¬ fault.IsUnresolved) (f : Float → Float → Float)
      (x y : Float) : Resolved (if y == 0 then .error fault else .ok (f x y)) := by
    split
    · exact resolved_error h
    · exact resolved_ok _
  cases op with
  | add => exact resolved_addition v w
  | sub | mul => exact resolved_arithmetic _ (fun _ _ ↦ resolved_ok _) v w
  | div | mod => exact resolved_arithmetic _ (hnonzero id _) v w
  | eq | ne | and | or => exact resolved_ok _
  | lt | le | gt | ge => exact (resolved_compare v w).map _
  | «in» | notIn => exact (resolved_holds w v).map _
  | contains => exact (resolved_holds v w).map _
  | startsWith | endsWith => exact resolved_textTest _ (fun _ _ ↦ resolved_ok _) v w
  | «matches» => exact resolved_textTest _ resolved_matchesPattern v w

end Value

end ReleaseAudit
