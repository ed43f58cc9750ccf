import ReleaseAudit.Value.Call

/-!
# Failures of host functions

A host function fails with an ordinary error, to which its name is added. Only a function of the
embedding program can also raise an error about an expression, which the call passes on as it is.
-/

namespace ReleaseAudit

namespace Failure

variable {ε ε' α : Type} {result : Except ε α} {f : ε → ε'} {a : α} {e : ε'}

theorem mapError_eq_ok_iff : result.mapError f = .ok a ↔ result = .ok a := by
  cases result <;> constructor <;> rintro ⟨⟩ <;> rfl

theorem mapError_eq_error_iff :
    result.mapError f = .error e ↔ ∃ cause, result = .error cause ∧ f cause = e := by
  constructor
  · intro h
    cases result <;> cases h
    exact ⟨_, rfl, rfl⟩
  · rintro ⟨cause, rfl, rfl⟩
    rfl

end Failure

variable [HostCode] {f : HostFunction} {args : List Value} {err : EvalError} {failure : Failure}

namespace HostFunction

theorem call_error_iff :
    (f.call args).1 = .error failure ↔
      ∃ cause, (f.answer args).1 = .error cause ∧ cause.ofCall f = failure :=
  Failure.mapError_eq_error_iff

theorem exists_foreign_of_answer (h : (f.answer args).1 = .error (.evaluation err)) :
    ∃ name key text, f = .foreign name key ∧ err.fault = .reported text ∧
      (HostCode.answer key args).1 = .error (.evaluation text err.span) := by
  cases f with
  | println => cases h
  | split | validCommitMsg =>
    obtain ⟨fault, -, hfault⟩ := Failure.mapError_eq_error_iff.1 h
    cases hfault
  | foreign name key =>
    obtain ⟨cause, hcause, herr⟩ := Failure.mapError_eq_error_iff.1 h
    change (HostCode.answer key args).1.map OrderedValue.value = .error cause at hcause
    cases hanswer : (HostCode.answer key args).1 with
    | ok v =>
      rw [hanswer] at hcause
      cases hcause
    | error cause' =>
      rw [hanswer] at hcause
      cases hcause
      cases cause with
      | ordinary => cases herr
      | evaluation text span =>
        cases herr
        exact ⟨name, key, text, rfl, rfl, hanswer⟩

end HostFunction

end ReleaseAudit
