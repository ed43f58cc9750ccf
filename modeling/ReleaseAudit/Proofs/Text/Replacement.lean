import Mathlib.Data.List.Infix
import ReleaseAudit.Proofs.Text.Words
import ReleaseAudit.Text.Search

/-!
# Splitting and replacing

A text is cut at a separator by a walk from the left, and occurrences are replaced by the same walk. So
joining undoes cutting, no piece holds the separator, and replacing puts the new text between the
pieces. What shares no character with the new text stands in the result only where it stood before.
-/

namespace ReleaseAudit.Text

variable {sep old new mask part piece a b cs : List Char} {pieces : List (List Char)} {c : Char}

/-! ## The walk -/

theorem stripPrefix?_eq_none (h : ¬ sep <+: cs) : stripPrefix? sep cs = none := by
  rw [← startsWith_iff, startsWith] at h
  simpa using h

theorem stripPrefix?_nil (hsep : sep ≠ []) : stripPrefix? sep [] = none :=
  stripPrefix?_eq_none (by simpa using hsep)

/-- The walk goes on behind an occurrence of `sep`, and by one character where there is none. -/
@[elab_as_elim]
theorem occurrences_induction {motive : List Char → Prop} (hsep : sep ≠ []) (nil : motive [])
    (found : ∀ rest, motive rest → motive (sep ++ rest))
    (step : ∀ c cs, ¬ sep <+: c :: cs → motive cs → motive (c :: cs)) (cs : List Char) :
    motive cs := by
  by_cases h : sep <+: cs
  · obtain ⟨rest, hrest⟩ := h
    have hlt : rest.length < cs.length := by
      rw [← hrest, List.length_append]
      exact Nat.lt_add_of_pos_left (List.length_pos_iff.2 hsep)
    rw [← hrest]
    exact found rest (occurrences_induction hsep nil found step rest)
  · cases cs with
    | nil => exact nil
    | cons c cs => exact step c cs h (occurrences_induction hsep nil found step cs)
termination_by cs.length

/-! ## Pieces -/

/-- The walk without the equation from which its end follows. -/
theorem splitFrom_eq_match (hsep : sep ≠ []) (piece cs : List Char) :
    splitFrom sep hsep piece cs =
      match stripPrefix? sep cs, cs with
      | some rest, _ => piece.reverse :: splitFrom sep hsep [] rest
      | none, [] => [piece.reverse]
      | none, c :: cs => splitFrom sep hsep (c :: piece) cs := by
  rw [splitFrom]
  split
  case h_1 hsome => rw [hsome]
  case h_2 hnone => cases cs <;> simp only [hnone]

theorem splitFrom_nil (hsep : sep ≠ []) (piece : List Char) :
    splitFrom sep hsep piece [] = [piece.reverse] := by
  rw [splitFrom_eq_match, stripPrefix?_nil hsep]

theorem splitFrom_found (hsep : sep ≠ []) (piece rest : List Char) :
    splitFrom sep hsep piece (sep ++ rest) = piece.reverse :: splitFrom sep hsep [] rest := by
  rw [splitFrom_eq_match, stripPrefix?_append]

theorem splitFrom_step (hsep : sep ≠ []) (piece : List Char) (h : ¬ sep <+: c :: cs) :
    splitFrom sep hsep piece (c :: cs) = splitFrom sep hsep (c :: piece) cs := by
  rw [splitFrom_eq_match, stripPrefix?_eq_none h]

/-- The start of the current piece has no influence on where the text is cut. -/
theorem splitFrom_eq (hsep : sep ≠ []) (piece cs : List Char) :
    splitFrom sep hsep piece cs = (splitFrom sep hsep [] cs).modifyHead (piece.reverse ++ ·) := by
  induction cs using occurrences_induction hsep generalizing piece with
  | nil => simp [splitFrom_nil]
  | found rest ih => simp [splitFrom_found]
  | step c cs h ih =>
    rw [splitFrom_step hsep piece h, splitFrom_step hsep [] h, ih (c :: piece), ih [c],
      List.modifyHead_modifyHead]
    congr 1
    funext first
    simp

theorem splitOn_nil (hsep : sep ≠ []) : splitOn sep [] = [[]] := by
  rw [splitOn, dif_neg hsep, splitFrom_nil, List.reverse_nil]

theorem splitOn_found (hsep : sep ≠ []) (rest : List Char) :
    splitOn sep (sep ++ rest) = [] :: splitOn sep rest := by
  rw [splitOn, splitOn, dif_neg hsep, dif_neg hsep, splitFrom_found, List.reverse_nil]

theorem splitOn_step (hsep : sep ≠ []) (h : ¬ sep <+: c :: cs) :
    splitOn sep (c :: cs) = (splitOn sep cs).modifyHead (c :: ·) := by
  rw [splitOn, splitOn, dif_neg hsep, dif_neg hsep, splitFrom_step hsep [] h, splitFrom_eq]
  rfl

theorem splitOn_ne_nil (hsep : sep ≠ []) (cs : List Char) : splitOn sep cs ≠ [] := by
  induction cs using occurrences_induction hsep with
  | nil => simp [splitOn_nil hsep]
  | found rest ih => simp [splitOn_found hsep]
  | step c cs h ih => simpa [splitOn_step hsep h] using ih

/-! ## Joining -/

theorem join_modifyHead (sep : List Char) (c : Char) (hne : pieces ≠ []) :
    join sep (pieces.modifyHead (c :: ·)) = c :: join sep pieces := by
  cases pieces with
  | nil => exact absurd rfl hne
  | cons piece rest => rw [List.modifyHead_cons, join_cons, join_cons, List.cons_append]

theorem infix_join (h : piece ∈ pieces) : piece <:+: join sep pieces := by
  induction pieces with
  | nil => cases h
  | cons first rest ih =>
    rcases List.mem_cons.1 h with rfl | hrest
    · rw [join_cons]
      exact (List.prefix_append _ _).isInfix
    · rw [join_cons_of_ne_nil sep first (List.ne_nil_of_mem hrest), ← List.append_assoc]
      exact (ih hrest).trans (List.suffix_append _ _).isInfix

/-- Joining undoes cutting. -/
theorem join_splitOn (hsep : sep ≠ []) (cs : List Char) : join sep (splitOn sep cs) = cs := by
  induction cs using occurrences_induction hsep with
  | nil => rw [splitOn_nil hsep, join_cons, List.flatMap_nil, List.append_nil]
  | found rest ih =>
    rw [splitOn_found hsep, join_cons_of_ne_nil _ _ (splitOn_ne_nil hsep rest), ih, List.nil_append]
  | step c cs h ih => rw [splitOn_step hsep h, join_modifyHead _ _ (splitOn_ne_nil hsep cs), ih]

/-- No piece holds the separator. -/
theorem not_infix_of_mem_splitOn (hsep : sep ≠ []) (h : piece ∈ splitOn sep cs) :
    ¬ sep <:+: piece := by
  induction cs using occurrences_induction hsep generalizing piece with
  | nil =>
    rw [splitOn_nil hsep, List.mem_singleton] at h
    simpa [h] using hsep
  | found rest ih =>
    rw [splitOn_found hsep] at h
    rcases List.mem_cons.1 h with rfl | hrest
    · simpa using hsep
    · exact ih hrest
  | step c cs hnot ih =>
    obtain ⟨first, rest, hsplit⟩ := List.exists_cons_of_ne_nil (splitOn_ne_nil hsep cs)
    rw [splitOn_step hsep hnot, hsplit, List.modifyHead_cons] at h
    rw [hsplit] at ih
    rcases List.mem_cons.1 h with rfl | hrest
    · -- The separator would begin at `c`, or stand in the piece that follows.
      have hfirst : first <+: cs := by
        rw [← join_splitOn hsep cs, hsplit, join_cons]
        exact List.prefix_append _ _
      intro hinfix
      rcases List.infix_cons_iff.1 hinfix with hbegins | hinside
      · exact hnot (hbegins.trans ((List.prefix_cons_inj c).2 hfirst))
      · exact ih List.mem_cons_self hinside
    · exact ih (List.mem_cons_of_mem _ hrest)

/-- The separator does not begin inside a piece, also where it reaches over the end of the piece. -/
theorem splitOn_leftmost (hsep : sep ≠ []) {before after : List (List Char)} {front back : List Char}
    (h : splitOn sep cs = before ++ (front ++ back) :: after) (hback : back ≠ []) :
    ¬ sep <+: join sep (back :: after) := by
  induction cs using occurrences_induction hsep generalizing before front with
  | nil =>
    rw [splitOn_nil hsep] at h
    cases before with
    | nil => simp_all
    | cons first before => simp at h
  | found rest ih =>
    rw [splitOn_found hsep] at h
    cases before with
    | nil => simp_all
    | cons first before => exact ih (List.cons.inj h).2
  | step c cs hnot ih =>
    obtain ⟨first, rest, hsplit⟩ := List.exists_cons_of_ne_nil (splitOn_ne_nil hsep cs)
    have hjoin : join sep (first :: rest) = cs := by rw [← hsplit, join_splitOn hsep]
    rw [splitOn_step hsep hnot, hsplit, List.modifyHead_cons] at h
    cases before with
    | cons piece before =>
      obtain ⟨-, rfl⟩ := List.cons.inj h
      have hbehind : splitOn sep cs = (first :: before) ++ (front ++ back) :: after := hsplit
      exact ih hbehind
    | nil =>
      obtain ⟨hpiece, rfl⟩ := List.cons.inj h
      cases front with
      | nil =>
        rw [List.nil_append] at hpiece
        rwa [← hpiece, join_cons, List.cons_append, ← join_cons, hjoin]
      | cons d front =>
        obtain ⟨-, rfl⟩ := List.cons.inj hpiece
        have hfirst : splitOn sep cs = [] ++ (front ++ back) :: rest := hsplit
        exact ih hfirst

/-! ## Replacing -/

theorem replace_eq_match (hold : old ≠ []) (new cs : List Char) :
    replace old new cs =
      match stripPrefix? old cs, cs with
      | some rest, _ => new ++ replace old new rest
      | none, [] => []
      | none, c :: cs => c :: replace old new cs := by
  simp only [replace, dif_neg hold]
  rw [replaceFrom]
  split
  case h_1 hsome => rw [hsome]
  case h_2 hnone => cases cs <;> simp only [hnone]

theorem replace_nil (hold : old ≠ []) : replace old new [] = [] := by
  rw [replace_eq_match hold, stripPrefix?_nil hold]

theorem replace_found (hold : old ≠ []) (rest : List Char) :
    replace old new (old ++ rest) = new ++ replace old new rest := by
  rw [replace_eq_match hold, stripPrefix?_append]

theorem replace_step (hold : old ≠ []) (h : ¬ old <+: c :: cs) :
    replace old new (c :: cs) = c :: replace old new cs := by
  rw [replace_eq_match hold, stripPrefix?_eq_none h]

/-- Replacing puts the new text between the pieces. -/
theorem replace_eq_join (hold : old ≠ []) (new cs : List Char) :
    replace old new cs = join new (splitOn old cs) := by
  induction cs using occurrences_induction hold with
  | nil =>
    rw [replace_nil hold, splitOn_nil hold]
    rfl
  | found rest ih =>
    rw [replace_found hold, splitOn_found hold, join_cons_of_ne_nil _ _ (splitOn_ne_nil hold rest), ih,
      List.nil_append]
  | step c cs h ih =>
    rw [replace_step hold h, splitOn_step hold h, join_modifyHead _ _ (splitOn_ne_nil hold cs), ih]

/-- What shares no character with a mask stands on one side of it. -/
theorem infix_or_of_infix_append (hpart : part ≠ []) (hmask : mask ≠ [])
    (hforeign : ∀ c ∈ mask, c ∉ part) (h : part <:+: a ++ (mask ++ b)) : part <:+: a ∨ part <:+: b := by
  have hempty {side : List Char} (hside : side ⊆ mask) (hsub : side ⊆ part) : side = [] := by
    apply List.eq_nil_iff_forall_not_mem.2
    exact fun c hc ↦ hforeign c (hside hc) (hsub hc)
  rcases List.infix_append_iff.1 h with hleft | hright | ⟨front, back, rfl, hfront, hback⟩
  · exact .inl hleft
  · rcases List.infix_append_iff.1 hright with hinside | hbehind | ⟨front, back, rfl, hfront, hback⟩
    · exact absurd (hempty hinside.subset (List.Subset.refl part)) hpart
    · exact .inr hbehind
    · have hnone : front = [] := hempty hfront.subset (List.subset_append_left front back)
      rw [hnone]
      exact .inr hback.isInfix
  · -- What reaches over the beginning of the mask would hold its first character.
    cases back with
    | nil =>
      rw [List.append_nil]
      exact .inl hfront.isInfix
    | cons c back =>
      obtain ⟨rest, hrest⟩ := hback
      have hhead : mask.head? = some c := by
        rw [← List.head?_append_of_ne_nil mask hmask, ← hrest]
        rfl
      have hc : c ∈ front ++ c :: back := List.mem_append_right front List.mem_cons_self
      exact absurd hc (hforeign c (List.mem_of_head? hhead))

/-- What shares no character with the text between the pieces stands in one of them. -/
theorem exists_infix_of_infix_join (hpart : part ≠ []) (hmask : mask ≠ [])
    (hforeign : ∀ c ∈ mask, c ∉ part) (h : part <:+: join mask pieces) :
    ∃ piece ∈ pieces, part <:+: piece := by
  induction pieces with
  | nil => exact absurd (List.infix_nil.1 h) hpart
  | cons first rest ih =>
    cases rest with
    | nil =>
      rw [join_cons, List.flatMap_nil, List.append_nil] at h
      exact ⟨first, List.mem_cons_self, h⟩
    | cons next rest =>
      rw [join_cons_of_ne_nil _ _ (List.cons_ne_nil next rest)] at h
      rcases infix_or_of_infix_append hpart hmask hforeign h with hfirst | hrest
      · exact ⟨first, List.mem_cons_self, hfirst⟩
      · obtain ⟨piece, hpiece, hinfix⟩ := ih hrest
        exact ⟨piece, List.mem_cons_of_mem _ hpiece, hinfix⟩

section

variable (hold : old ≠ []) (hmask : mask ≠ [])

include hold hmask

/-- Nothing is left of what a mask replaces that shares no character with it. -/
theorem not_infix_replace (hforeign : ∀ c ∈ mask, c ∉ old) : ¬ old <:+: replace old mask cs := by
  rw [replace_eq_join hold]
  intro h
  obtain ⟨piece, hpiece, hinfix⟩ := exists_infix_of_infix_join hold hmask hforeign h
  exact not_infix_of_mem_splitOn hold hpiece hinfix

/-- A mask brings forth nothing that shares no character with it. -/
theorem infix_of_infix_replace (hpart : part ≠ []) (hforeign : ∀ c ∈ mask, c ∉ part)
    (h : part <:+: replace old mask cs) : part <:+: cs := by
  rw [replace_eq_join hold] at h
  obtain ⟨piece, hpiece, hinfix⟩ := exists_infix_of_infix_join hpart hmask hforeign h
  calc
    part <:+: piece := hinfix
    _ <:+: join old (splitOn old cs) := infix_join hpiece
    _ = cs := join_splitOn hold cs

end

/-- Where nothing is found nothing is replaced. -/
theorem replace_eq_self (hold : old ≠ []) (h : ¬ old <:+: cs) : replace old new cs = cs := by
  induction cs using occurrences_induction hold with
  | nil => exact replace_nil hold
  | found rest ih => exact absurd (List.prefix_append old rest).isInfix h
  | step c cs hnot ih =>
    have hrest : ¬ old <:+: cs := fun hinfix ↦ h (List.infix_cons hinfix)
    rw [replace_step hold hnot, ih hrest]

end ReleaseAudit.Text
