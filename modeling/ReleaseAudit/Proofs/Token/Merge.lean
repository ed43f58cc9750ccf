import ReleaseAudit.Proofs.Token.Place

/-!
# Merging spans

Of two spans the line, the start and the end of the merged one do not depend on the order in which they
are given. The column does: spans on two lines give it the column of the first one, and so the merged span
begins where its line and column say only when the first one is not on a later line, or when the columns
happen to be the same.
-/

namespace ReleaseAudit

namespace Span

variable {text : List Char} {a b s u : Span}

/-- The span begins in the text, at the place that its line and column tell. -/
def IsPlacedIn (text : List Char) (s : Span) : Prop :=
  ∃ before, before <+: text ∧ s.first = .advanceAll .origin before

theorem IsPlacedIn.before_of_start_le (hs : s.IsPlacedIn text) (hu : u.IsPlacedIn text)
    (h : s.start ≤ u.start) : s.first.Before u.first := by
  obtain ⟨front, hfront, hfirst⟩ := hs
  obtain ⟨front', hfront', hfirst'⟩ := hu
  rw [start_of_first hfirst, start_of_first hfirst'] at h
  obtain ⟨w, rfl⟩ := Text.prefix_of_byteSize_le hfront hfront' h
  rw [hfirst, hfirst', Position.advanceAll_append]
  exact Position.before_advanceAll _ w

/-- Spans that start at the same byte have the same line and column. -/
theorem IsPlacedIn.first_eq (hs : s.IsPlacedIn text) (hu : u.IsPlacedIn text)
    (h : s.start = u.start) : s.first = u.first := by
  have hforth := hs.before_of_start_le hu (Nat.le_of_eq h)
  have hback := hu.before_of_start_le hs (Nat.le_of_eq h.symm)
  have hline : s.line = u.line := Nat.le_antisymm hforth.line hback.line
  have hcolumn : s.column = u.column :=
    Nat.le_antisymm (hforth.column hline) (hback.column hline.symm)
  exact Position.ext hline hcolumn h

theorem isPlacedIn_congr (h : s.first = u.first) : s.IsPlacedIn text ↔ u.IsPlacedIn text := by
  rw [IsPlacedIn, IsPlacedIn, h]

/-! ## Both orders -/

theorem merge_swap (a b : Span) : a.merge b = { b.merge a with column := (a.merge b).column } := by
  simp only [merge, Nat.min_comm, Nat.max_comm]

theorem merge_comm_iff : a.merge b = b.merge a ↔ a.line = b.line ∨ a.column = b.column := by
  by_cases hline : a.line = b.line
  · simp [merge, hline, Nat.min_comm, Nat.max_comm]
  · simp [merge, hline, Ne.symm hline, Nat.min_comm, Nat.max_comm]

/-- When the second span begins first, the merged one has its line and its first byte. -/
theorem first_merge_of_before (h : b.first.Before a.first) :
    (a.merge b).first = ⟨b.line, if a.line = b.line then b.column else a.column, b.start⟩ := by
  have hline : min a.line b.line = b.line := Nat.min_eq_right h.line
  have hstart : min a.start b.start = b.start := Nat.min_eq_right h.offset
  by_cases heq : a.line = b.line
  · have hcolumn : min a.column b.column = b.column := Nat.min_eq_right (h.column heq.symm)
    simp [first, merge, hstart, heq, hcolumn]
  · simp [first, merge, hline, hstart, heq]

theorem isPlacedIn_merge_iff (ha : a.IsPlacedIn text) (hb : b.IsPlacedIn text) :
    (a.merge b).IsPlacedIn text ↔ a.line ≤ b.line ∨ a.column = b.column := by
  rcases Nat.le_total a.start b.start with hstart | hstart
  · have hbefore := ha.before_of_start_le hb hstart
    exact iff_of_true ((isPlacedIn_congr (first_merge hbefore)).2 ha) (.inl hbefore.line)
  · have hbefore := hb.before_of_start_le ha hstart
    -- only one line and column belong to the start, and `b` has them
    have hplaced : (a.merge b).IsPlacedIn text ↔ (a.merge b).first = b.first :=
      ⟨fun h ↦ h.first_eq hb (Nat.min_eq_right hstart), fun h ↦ (isPlacedIn_congr h).2 hb⟩
    have hline : a.line ≤ b.line ↔ a.line = b.line :=
      ⟨fun hle ↦ Nat.le_antisymm hle hbefore.line, Nat.le_of_eq⟩
    rw [hplaced, first_merge_of_before hbefore, hline]
    by_cases heq : a.line = b.line <;> simp [first, heq]

/-- The order of two spans of a text matters for the column of the merged one only, and there it does
unless they share the line or the column. The line and column are those of the start unless the second
span is on an earlier line and in another column. -/
theorem merge_either_order (ha : a.IsPlacedIn text) (hb : b.IsPlacedIn text) :
    a.merge b = { b.merge a with column := (a.merge b).column } ∧
    (a.merge b = b.merge a ↔ a.line = b.line ∨ a.column = b.column) ∧
    ((a.merge b).IsPlacedIn text ↔ a.line ≤ b.line ∨ a.column = b.column) :=
  ⟨merge_swap a b, merge_comm_iff, isPlacedIn_merge_iff ha hb⟩

/-- Two names on the second line, the later one first. -/
theorem merge_either_order_same_line :
    IsPlacedIn "x\n  é + b".toList ⟨2, 7, 9, 10⟩ ∧ IsPlacedIn "x\n  é + b".toList ⟨2, 3, 4, 6⟩ ∧
    merge ⟨2, 7, 9, 10⟩ ⟨2, 3, 4, 6⟩ = merge ⟨2, 3, 4, 6⟩ ⟨2, 7, 9, 10⟩ ∧
    IsPlacedIn "x\n  é + b".toList (merge ⟨2, 7, 9, 10⟩ ⟨2, 3, 4, 6⟩) := by
  have hb : IsPlacedIn "x\n  é + b".toList ⟨2, 7, 9, 10⟩ := ⟨"x\n  é + ".toList, by decide, by decide⟩
  have he : IsPlacedIn "x\n  é + b".toList ⟨2, 3, 4, 6⟩ := ⟨"x\n  ".toList, by decide, by decide⟩
  obtain ⟨-, hcomm, hplaced⟩ := merge_either_order hb he
  exact ⟨hb, he, hcomm.2 (.inl rfl), hplaced.2 (.inl (Nat.le_refl 2))⟩

/-- A name on the second line merged with one on the first begins in a column of neither order. -/
theorem merge_later_line_first :
    scan " ab\nc" = .ok [⟨.name "ab", ⟨1, 2, 1, 3⟩⟩, ⟨.name "c", ⟨2, 1, 4, 5⟩⟩] ∧
    merge ⟨1, 2, 1, 3⟩ ⟨2, 1, 4, 5⟩ = ⟨1, 2, 1, 5⟩ ∧
    merge ⟨2, 1, 4, 5⟩ ⟨1, 2, 1, 3⟩ = ⟨1, 1, 1, 5⟩ ∧
    ¬ IsPlacedIn " ab\nc".toList ⟨1, 1, 1, 5⟩ := by
  have hscan : scan " ab\nc" = .ok [⟨.name "ab", ⟨1, 2, 1, 3⟩⟩, ⟨.name "c", ⟨2, 1, 4, 5⟩⟩] := by
    with_unfolding_all rfl
  have hab : IsPlacedIn " ab\nc".toList ⟨1, 2, 1, 3⟩ := ⟨" ".toList, by decide, by decide⟩
  have hc : IsPlacedIn " ab\nc".toList ⟨2, 1, 4, 5⟩ := ⟨" ab\n".toList, by decide, by decide⟩
  exact ⟨hscan, rfl, rfl, mt (isPlacedIn_merge_iff hc hab).1 (by decide)⟩

end Span

end ReleaseAudit
