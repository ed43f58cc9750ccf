import ReleaseAudit.Proofs.Expr.Failure
import ReleaseAudit.Proofs.Token.Place

/-!
# Blame

An expression that fails is blamed at one of its nodes: evaluation locates a fault at the node whose
own operation failed, also when this node stands in a closure, and a name that is not known is
blamed where it stands.
-/

namespace ReleaseAudit

namespace Expr

variable {P : Position → Prop} {e : Expr} {n : String} {s : Span}

/-- All nodes of the expression begin at places that satisfy `P`. -/
def Marked (P : Position → Prop) (e : Expr) : Prop := Everywhere (fun e' ↦ P e'.span.first) e

/-- An error of the evaluation is located at a node of the expression, unless a function of the embedding
program raises it. -/
theorem first_of_evaluate_error [HostCode] {env : Environment} {err : EvalError} (h : Marked P e)
    (herr : (e.evaluate env).1 = .error err) :
    (∃ s, err.span = some s ∧ P s.first) ∨ Raises env e err := by
  obtain ⟨e', m', hoccurs, hcomes, ⟨-, hspan⟩ | hraised⟩ := evaluate_error_iff.1 herr
  · exact .inl ⟨e'.span, hspan, h m'.names e' hoccurs⟩
  · exact .inr ⟨e', m', hcomes, hraised⟩

/-- The name that compiling refuses is one of the expression. -/
theorem first_of_unknownName {env : Environment} {source : String}
    (hparse : parse source = .ok e) (h : compile env source = .error (.unknownName n s))
    (hmarked : Marked P e) : P s.first := by
  simp only [compile, hparse] at h
  split at h
  case h_1 hfind =>
    cases h
    have hmem := mem_of_mem_firstOfEach (List.mem_of_find?_eq_some hfind)
    obtain ⟨params, hoccurs, -⟩ := exists_occurs_of_mem_freeOccurrences hmem
    exact hmarked params _ hoccurs
  case h_2 => cases h

end Expr

end ReleaseAudit
