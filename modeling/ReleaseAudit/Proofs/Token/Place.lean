import ReleaseAudit.Proofs.Token.Run

/-!
# Where tokens and scan errors begin

Spans are compared by the places of their first bytes. A token begins at a character of the text
that is not blank, and so does what the scanner refuses. Tokens stand in the order of their places,
so that two merged spans begin where the first of them does.
-/

namespace ReleaseAudit

namespace Position

/-- The place `p` is not behind `q`. -/
structure Before (p q : Position) : Prop where
  line : p.line ≤ q.line
  column : p.line = q.line → p.column ≤ q.column
  offset : p.offset ≤ q.offset

variable {p q r : Position}

theorem Before.refl (p : Position) : p.Before p where
  line := Nat.le_refl _
  column _ := Nat.le_refl _
  offset := Nat.le_refl _

theorem Before.trans (hpq : p.Before q) (hqr : q.Before r) : p.Before r where
  line := Nat.le_trans hpq.line hqr.line
  column hline := by
    have hpq' : p.line = q.line := Nat.le_antisymm hpq.line (hline ▸ hqr.line)
    have hqr' : q.line = r.line := hpq' ▸ hline
    exact Nat.le_trans (hpq.column hpq') (hqr.column hqr')
  offset := Nat.le_trans hpq.offset hqr.offset

theorem before_advance (p : Position) (c : Char) : p.Before (p.advance c) := by
  by_cases hc : c = '\n'
  · constructor <;> simp [advance, hc]
  · constructor <;> simp [advance, hc]

theorem before_advanceAll (p : Position) (cs : List Char) : p.Before (p.advanceAll cs) := by
  induction cs generalizing p with
  | nil => exact .refl p
  | cons c cs ih => exact (before_advance p c).trans (ih (p.advance c))

end Position

namespace Span

/-- The place of the first byte. -/
def first (s : Span) : Position := ⟨s.line, s.column, s.start⟩

theorem first_between (a b : Position) : (between a b).first = a := rfl

theorem start_of_first {s : Span} {before : List Char} (h : s.first = .advanceAll .origin before) :
    s.start = Text.byteSize before := by
  rw [← Position.offset_advanceAll_origin, ← h]
  rfl

/-- Spans in their order merge to one that begins with the first of them. -/
theorem first_merge {a b : Span} (h : a.first.Before b.first) : (a.merge b).first = a.first := by
  have hcolumn : (if a.line == b.line then min a.column b.column else a.column) = a.column := by
    split
    case isTrue hline => exact Nat.min_eq_left (h.column (eq_of_beq hline))
    case isFalse => rfl
  have hline : min a.line b.line = a.line := Nat.min_eq_left h.line
  have hstart : min a.start b.start = a.start := Nat.min_eq_left h.offset
  simp only [first, merge, hcolumn, hline, hstart]

/-- The span `u` begins at the end of `s` or behind it. -/
structure Precedes (s u : Span) : Prop where
  first : s.first.Before u.first
  apart : s.stop ≤ u.start

end Span

open Reading (blanks)

/-- At `p` there is a character of the text, and it is not blank. -/
def Begins (text : List Char) (p : Position) : Prop :=
  ∃ before c after, text = before ++ c :: after ∧ c ∉ blanks ∧ p = .advanceAll .origin before

variable {text before cs : List Char} {p : Position} {ts : Tokens} {e : ScanError}

theorem begins_of_reading {c : Char} {rest : List Char} (htext : text = before ++ c :: rest)
    (hp : p = .advanceAll .origin before) (h : ∀ n, Reading.of c rest ≠ .gap n) : Begins text p :=
  ⟨before, c, rest, htext, fun hc ↦ h 1 (Reading.of_blank hc rest), hp⟩

theorem Scans.begins (h : Scans p cs ts) (htext : text = before ++ cs)
    (hp : p = .advanceAll .origin before) : ∀ t ∈ ts, Begins text t.span.first := by
  induction h generalizing before with
  | done => simp
  | @gap p c w k ts _ _ ih =>
    refine @ih (before ++ c :: w) ?_ ?_
    · rw [htext, List.append_assoc]
    · rw [hp, Position.advanceAll_append]
  | @token p c w k t ts hof _ ih =>
    refine List.forall_mem_cons.2 ⟨?_, ?_⟩
    · rw [Span.first_between]
      rw [List.cons_append] at htext
      exact begins_of_reading htext hp fun n ↦ by simp [hof]
    · refine @ih (before ++ c :: w) ?_ ?_
      · rw [htext, List.append_assoc]
      · rw [hp, Position.advanceAll_append]

theorem Scans.before_first (h : Scans p cs ts) : ∀ t ∈ ts, p.Before t.span.first := by
  induction h with
  | done => simp
  | @gap p c w k ts _ _ ih =>
    exact fun t ht ↦ (Position.before_advanceAll p (c :: w)).trans (ih t ht)
  | @token p c w k t ts _ _ ih =>
    refine List.forall_mem_cons.2 ⟨.refl p, fun t ht ↦ ?_⟩
    exact (Position.before_advanceAll p (c :: w)).trans (ih t ht)

theorem Scans.ordered (h : Scans p cs ts) : ts.Pairwise fun t u ↦ t.span.Precedes u.span := by
  induction h with
  | done => exact .nil
  | gap _ _ ih => exact ih
  | @token p c w k t ts _ hrest ih =>
    refine .cons (fun u hu ↦ ?_) ih
    have hbefore := hrest.before_first u hu
    exact ⟨(Position.before_advanceAll p (c :: w)).trans hbefore, hbefore.offset⟩

theorem Scans.nonempty (h : Scans p cs ts) : ∀ t ∈ ts, t.span.start < t.span.stop := by
  induction h with
  | done => simp
  | gap _ _ ih => exact ih
  | @token p c w k t ts _ _ ih =>
    refine List.forall_mem_cons.2 ⟨?_, ih⟩
    change p.offset < (p.advanceAll (c :: w)).offset
    rw [Position.offset_advanceAll]
    exact Nat.lt_add_of_pos_right (Text.byteSize_pos (List.cons_ne_nil c w))

theorem Refuses.first {c : Char} {rest : List Char} (h : Refuses p c rest e) :
    e.span.first = p := by
  cases h <;> rfl

/-- The scanner stops at a character that begins none of the readings it goes over. -/
theorem begins_of_scanFrom_error (h : scanFrom p cs = .error e) (htext : text = before ++ cs)
    (hp : p = .advanceAll .origin before) : Begins text e.span.first := by
  obtain ⟨w, c, rest, rfl, hrefuses⟩ := exists_refuses_of_scanFrom h
  have hwhole : text = (before ++ w) ++ c :: rest := by rw [htext, List.append_assoc]
  have hplace : p.advanceAll w = .advanceAll .origin (before ++ w) := by
    rw [hp, Position.advanceAll_append]
  rw [hrefuses.first]
  exact begins_of_reading hwhole hplace hrefuses.ne_gap

end ReleaseAudit
