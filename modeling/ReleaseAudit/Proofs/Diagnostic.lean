import Mathlib.Data.List.Destutter
import ReleaseAudit.Diagnostic

/-!
# What a diagnostic tells

A diagnostic has its message and its causes for lines. They are the texts of a chain of failures, without
those that the line shown before them holds already. So no line repeats a part of the line before it, and
every text of the chain can still be read in one of the lines.
-/

namespace ReleaseAudit

namespace Diagnostic

variable {shown text first : String} {texts chain : List String} {d : Diagnostic}

/-- The text is a part of the line. -/
def Holds (line text : String) : Prop := text.toList <:+: line.toList

instance : DecidableRel Holds := fun line text ↦
  inferInstanceAs (Decidable (text.toList <:+: line.toList))

theorem holds_self (line : String) : Holds line line := List.infix_rfl

/-- The message and the causes. -/
def lines (d : Diagnostic) : List String := d.message :: d.causes

/-- What a chain of failures is told by. -/
structure Tells (d : Diagnostic) (chain : List String) : Prop where
  message : chain.head? = some d.message
  causes : d.causes.Sublist chain.tail
  /-- Every text of the chain is a part of a line. -/
  complete : ∀ text ∈ chain, ∃ line ∈ d.lines, Holds line text
  /-- No cause is a part of the line in front of it. -/
  fresh : d.lines.IsChain fun line cause ↦ ¬ Holds line cause

/-! ## The lines of a chain -/

theorem cons_news (shown : String) (texts : List String) :
    shown :: news shown texts = texts.destutter' (¬ Holds · ·) shown := by
  induction texts generalizing shown with
  | nil => rfl
  | cons text texts ih =>
    rw [news]
    by_cases h : Holds shown text
    · rw [if_pos (Text.isInfix_iff.2 h), ih, List.destutter'_cons_neg _ (not_not.2 h)]
    · rw [if_neg (mt Text.isInfix_iff.1 h), ih, List.destutter'_cons_pos _ h]

theorem lines_ofChain (first : String) (rest : List String) :
    (ofChain (first :: rest)).lines = (first :: rest).destutter (¬ Holds · ·) := by
  rw [List.destutter_cons', ← cons_news]
  rfl

/-- A text that is left out is a part of the line that was shown last, and that line stays. -/
theorem exists_holds_of_mem (h : text ∈ shown :: texts) :
    ∃ line ∈ shown :: news shown texts, Holds line text := by
  induction texts generalizing shown with
  | nil => exact ⟨shown, List.mem_cons_self, (List.mem_singleton.1 h) ▸ holds_self shown⟩
  | cons next texts ih =>
    rw [news]
    split
    case isTrue hnext =>
      rcases List.mem_cons.1 h with rfl | hrest
      · exact ⟨text, List.mem_cons_self, holds_self text⟩
      rcases List.mem_cons.1 hrest with rfl | hrest
      · exact ⟨shown, List.mem_cons_self, Text.isInfix_iff.1 hnext⟩
      · exact ih (List.mem_cons_of_mem shown hrest)
    case isFalse =>
      rcases List.mem_cons.1 h with rfl | hrest
      · exact ⟨text, List.mem_cons_self, holds_self text⟩
      · obtain ⟨line, hline, hholds⟩ := ih hrest
        exact ⟨line, List.mem_cons_of_mem shown hline, hholds⟩

theorem tells_ofChain (first : String) (rest : List String) :
    (ofChain (first :: rest)).Tells (first :: rest) where
  message := rfl
  causes := by
    have hlines : (ofChain (first :: rest)).lines.Sublist (first :: rest) := by
      rw [lines_ofChain]
      exact List.destutter_sublist _ _
    exact List.cons_sublist_cons.1 hlines
  complete _ htext := exists_holds_of_mem htext
  fresh := by
    rw [lines_ofChain]
    exact List.isChain_destutter _ _

/-! ## Failures of the gate -/

theorem Tells.congr {d' : Diagnostic} (h : d.Tells chain) (hlines : d'.lines = d.lines) :
    d'.Tells chain := by
  obtain ⟨hmessage, hcauses⟩ := List.cons.inj hlines
  exact ⟨hmessage ▸ h.message, hcauses ▸ h.causes, hlines ▸ h.complete, hlines ▸ h.fresh⟩

theorem lines_forCheck (d : Diagnostic) (e : CheckError) : (d.forCheck e).lines = d.lines := by
  cases e <;> rfl

theorem lines_forResolution (d : Diagnostic) (e : ResolveError) :
    (d.forResolution e).lines = d.lines := by
  cases e <;> rfl

/-- What is added to a diagnostic for the kind of the failure leaves its lines alone. -/
theorem lines_ofError (e : GateError) : (ofError e).lines = (ofChain e.chain).lines := by
  unfold ofError
  split
  case h_1 => exact lines_forCheck _ _
  case h_2 =>
    split
    case h_1 => exact lines_forResolution _ _
    case h_2 => rfl

end Diagnostic

theorem LoadError.exists_chain (e : LoadError) : ∃ first rest, e.chain = first :: rest := by
  cases e <;> exact ⟨_, _, rfl⟩

theorem EnvironmentError.exists_chain (e : EnvironmentError) :
    ∃ first rest, e.chain = first :: rest := by
  cases e <;> exact ⟨_, _, rfl⟩

theorem GateError.exists_chain (e : GateError) : ∃ first rest, e.chain = first :: rest := by
  cases e with
  | descriptor cause => exact cause.exists_chain
  | environment cause => exact cause.exists_chain
  | _ => exact ⟨_, _, rfl⟩

namespace Diagnostic

/-- Whatever the failure and however long its chain, the diagnostic tells all of it and nothing twice in
a row. -/
theorem chain_told :
    (∀ first rest, (ofChain (first :: rest)).Tells (first :: rest)) ∧
    ∀ e : GateError, (ofError e).Tells e.chain := by
  refine ⟨tells_ofChain, fun e ↦ ?_⟩
  obtain ⟨first, rest, hchain⟩ := e.exists_chain
  have htells : (ofChain e.chain).Tells e.chain := by
    rw [hchain]
    exact tells_ofChain first rest
  exact htells.congr (lines_ofError e)

/-- A text that comes again behind another one is shown again. -/
example : (ofChain ["load: no b", "no b", "", "git", "no b", "no b"]).causes = ["git", "no b"] := by
  decide

end Diagnostic

end ReleaseAudit
