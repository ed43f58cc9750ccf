import Mathlib.Data.List.Basic
import ReleaseAudit.Proofs.Expr.Failure
import ReleaseAudit.Proofs.Expr.Fault

/-!
# Scopes

A compiled expression never lacks a name: what is looked up in its evaluation is the parameter of a
closure around it, a name of the environment or a builtin.
-/

namespace ReleaseAudit

namespace Expr

variable {env : Environment} {source : String} {e : Expr} {m after : Machine}

/-! ## Names that are missed -/

/-- The name is no parameter, and neither the environment nor the builtins have it. -/
structure Unknown (env : Environment) (m : Machine) (n : String) : Prop where
  local_free : n ∉ m.names
  not_global : ¬ env.contains n
  not_builtin : Builtin.ofName? n = none

theorem unknown_of_found? {n : String} (hfound : found? env m n = none)
    (hbuiltin : Builtin.ofName? n = none) : Unknown env m n := by
  unfold found? at hfound
  cases hlocal : m.locals.lookup n with
  | some v =>
    rw [hlocal] at hfound
    cases hfound
  | none =>
    rw [hlocal] at hfound
    refine ⟨?_, ?_, hbuiltin⟩
    · intro hmem
      obtain ⟨⟨_, v⟩, hv, rfl⟩ := List.mem_map.1 hmem
      simpa using List.lookup_eq_none_iff.1 hlocal _ hv
    · have hglobal : env.entries.get? n = none := hfound
      simp [Environment.contains, Dict.contains, hglobal]

variable [HostCode]

theorem not_unresolved_of_callFails {v : Value} {args : List Value} {failure : Failure}
    (h : CallFails v args failure) : ¬ failure.toEvalError.fault.IsUnresolved := by
  cases h with
  | host hcall => exact Value.resolved_call hcall
  | notCallable _ => exact id

theorem not_unresolved_of_methodFails {v : Value} {n : String} {args : List Value} {failure : Failure}
    (h : MethodFails v n args failure) : ¬ failure.toEvalError.fault.IsUnresolved := by
  cases h with
  | host _ hcall => exact Value.resolved_call hcall
  | own _ hmethod => exact Value.resolved_method _ _ _ _ hmethod

/-- A node that fails for want of a name is that name or the call of it. -/
theorem exists_unknown_of_fails {failure : Failure} (h : Fails env e m failure)
    (hfault : failure.toEvalError.fault.IsUnresolved) :
    ∃ s n, Reaches env e m (name s n) m ∧ Unknown env m n := by
  cases h with
  | uncalled | closure => exact absurd hfault id
  | unknown hfound hbuiltin => exact ⟨_, _, .refl, unknown_of_found? hfound hbuiltin⟩
  | unknownFunction hfound _ hbuiltin =>
    exact ⟨_, _, .single .callFunction, unknown_of_found? hfound hbuiltin⟩
  | property _ hown => exact absurd hfault (Value.resolved_property _ _ _ hown)
  | index _ _ hown => exact absurd hfault (Value.resolved_index _ _ _ hown)
  | method _ _ _ hown => exact absurd hfault (not_unresolved_of_methodFails hown)
  | callName _ _ hown | call _ _ _ hown => exact absurd hfault (not_unresolved_of_callFails hown)
  | builtin _ _ _ hown => exact absurd hfault (Value.resolved_builtin _ _ _ hown)
  | minus _ hown => exact absurd hfault (Value.resolved_negated _ _ hown)
  | binary _ _ _ _ hown => exact absurd hfault (Value.resolved_binary _ _ _ _ hown)

omit [HostCode] in
theorem fault_toEvalError_locate (failure : Failure) (s : Span) :
    (failure.locate s).toEvalError.fault = failure.toEvalError.fault := by
  cases failure <;> rfl

/-- What fails for want of a name has reached a name that is not known. -/
theorem exists_unknown_of_error {err : Failure} (hfault : err.toEvalError.fault.IsUnresolved)
    (h : (eval env e m).1 = .error err) :
    ∃ s n m', Reaches env e m (name s n) m' ∧ Unknown env m' n := by
  obtain ⟨e', m', failure, hcomes, hfails, rfl⟩ := eval_error_iff.1 h
  rw [fault_toEvalError_locate] at hfault
  obtain ⟨s, n, hreaches, hunknown⟩ := exists_unknown_of_fails hfails hfault
  exact ⟨s, n, m', hcomes.reaches.trans hreaches, hunknown⟩

/-! ## Names of compiled expressions -/

/-- The names that an expression uses are known whenever they are looked up. -/
structure Scoped (env : Environment) (e : Expr) : Prop where
  /-- The parameters in force are those of the closures around the name. -/
  occurs : ∀ s n m, Reaches env e ⟨[], ""⟩ (name s n) m → Occurs e m.names (name s n)
  known : ∀ s n m, Reaches env e ⟨[], ""⟩ (name s n) m →
    n ∈ m.names ∨ env.contains n ∨ (Builtin.ofName? n).isSome
  faults : ∀ err, (e.evaluate env).1 = .error err →
    ∀ n, err.fault ≠ .unknownName n ∧ err.fault ≠ .unknownFunction n

omit [HostCode] in
/-- The names that compiling has let through. -/
theorem isKnown_of_compile (h : compile env source = .ok e) {n : String} {s : Span}
    (hfree : (n, s) ∈ freeOccurrences [] e) : isKnown env n := by
  unfold compile at h
  split at h
  · cases h
  case h_2 e' hparse =>
    split at h
    · cases h
    case h_2 hnone =>
      cases h
      obtain ⟨s', hmem⟩ := exists_mem_freeNames hfree
      simpa using List.find?_eq_none.1 hnone _ hmem

/-- Evaluating a compiled expression never fails for want of a name. -/
theorem compile_scoped (h : compile env source = .ok e) : Scoped env e := by
  have hoccurs (s : Span) (n : String) (m : Machine)
      (hreaches : Reaches env e ⟨[], ""⟩ (name s n) m) : Occurs e m.names (name s n) := by
    obtain ⟨params, hoccurs, hnames⟩ := hreaches.occurs
    rw [hnames]
    simpa [Machine.names] using hoccurs
  have hknown (s : Span) (n : String) (m : Machine)
      (hreaches : Reaches env e ⟨[], ""⟩ (name s n) m) :
      n ∈ m.names ∨ env.contains n ∨ (Builtin.ofName? n).isSome := by
    rcases (hoccurs s n m hreaches).mem_or_free with hlocal | hfree
    · exact .inl hlocal
    · exact .inr (by simpa [isKnown] using isKnown_of_compile h hfree)
  refine ⟨hoccurs, hknown, fun err herr n ↦ ?_⟩
  have hfault : ¬ err.fault.IsUnresolved := by
    intro hfault
    obtain ⟨failure, hrun, rfl⟩ := Failure.mapError_eq_error_iff.1 herr
    obtain ⟨s, n, m, hreaches, hunknown⟩ := exists_unknown_of_error hfault hrun
    rcases hknown s n m hreaches with hlocal | hglobal | hbuiltin
    · exact hunknown.local_free hlocal
    · exact hunknown.not_global hglobal
    · simp [hunknown.not_builtin] at hbuiltin
  constructor
  · intro heq
    exact hfault (heq ▸ trivial)
  · intro heq
    exact hfault (heq ▸ trivial)

end Expr

namespace Expr

def listed : Environment := ⟨[("v", .list [.string "1.0", .null])]⟩

/-- The tokens of `v.map(w=>len(w))`. -/
def listedTokens : Tokens :=
  [⟨.name "v", ⟨1, 1, 0, 1⟩⟩, ⟨.dot, ⟨1, 2, 1, 2⟩⟩, ⟨.name "map", ⟨1, 3, 2, 5⟩⟩,
    ⟨.leftParen, ⟨1, 6, 5, 6⟩⟩, ⟨.name "w", ⟨1, 7, 6, 7⟩⟩, ⟨.arrow, ⟨1, 8, 7, 9⟩⟩,
    ⟨.name "len", ⟨1, 10, 9, 12⟩⟩, ⟨.leftParen, ⟨1, 13, 12, 13⟩⟩, ⟨.name "w", ⟨1, 14, 13, 14⟩⟩,
    ⟨.rightParen, ⟨1, 15, 14, 15⟩⟩, ⟨.rightParen, ⟨1, 16, 15, 16⟩⟩]

/-- A name of the environment, and below the parameter a builtin. -/
def listedExpr : Expr :=
  method ⟨1, 1, 0, 16⟩ (name ⟨1, 1, 0, 1⟩ "v") "map"
    [closure ⟨1, 7, 6, 15⟩ "w"
      (call ⟨1, 10, 9, 15⟩ (name ⟨1, 10, 9, 12⟩ "len") [name ⟨1, 14, 13, 14⟩ "w"])]

theorem compile_listed_scoped :
    letI := HostCode.none
    compile listed "v.map(w=>len(w))" = .ok listedExpr ∧ Scoped listed listedExpr := by
  let code : HostCode := HostCode.none
  have hscan : scan "v.map(w=>len(w))" = .ok listedTokens := by with_unfolding_all rfl
  have htokens : ofTokens listedTokens = .ok listedExpr := by cbv
  have hcompile : compile listed "v.map(w=>len(w))" = .ok listedExpr := by
    simp only [compile, parse, hscan, htokens]
    rfl
  exact ⟨hcompile, compile_scoped hcompile⟩

end Expr

end ReleaseAudit
