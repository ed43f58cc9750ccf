import Mathlib.Data.List.TakeWhile
import ReleaseAudit.Proofs.Token.Position

/-!
# The line of a character

The number of line breaks in front of a character is the index of the line that the character stands
on, when a text is taken apart into its lines. A line break is LF or CR LF, and belongs to no line.
-/

namespace ReleaseAudit.Text

variable {a b above start tail below line cs : List Char} {c : Char}

/-! ## Taking apart -/

theorem splitBy_ne_nil (p : Char → Bool) (cs : List Char) : splitBy p cs ≠ [] := by
  cases cs with
  | nil => simp [splitBy]
  | cons c cs =>
    rw [splitBy]
    split
    · exact List.cons_ne_nil _ _
    · cases splitBy p cs <;> simp

theorem splitBy_append {p : Char → Bool} (hc : p c) (a b : List Char) :
    splitBy p (a ++ c :: b) = splitBy p a ++ splitBy p b := by
  induction a with
  | nil => simp [splitBy, hc]
  | cons d a ih =>
    rw [List.cons_append, splitBy, splitBy, ih]
    by_cases hd : p d
    · rw [if_pos hd, if_pos hd, List.cons_append]
    · rw [if_neg hd, if_neg hd]
      cases hsplit : splitBy p a with
      | nil => exact absurd hsplit (splitBy_ne_nil p a)
      | cons piece pieces => rfl

theorem splitBy_eq_singleton {p : Char → Bool} (h : ∀ c ∈ cs, ¬ p c) : splitBy p cs = [cs] := by
  induction cs with
  | nil => rfl
  | cons c cs ih =>
    obtain ⟨hc, hcs⟩ := List.forall_mem_cons.1 h
    rw [splitBy, if_neg hc, ih hcs]

theorem length_splitBy (cs : List Char) :
    (splitBy (· == '\n') cs).length = cs.count '\n' + 1 := by
  induction cs with
  | nil => rfl
  | cons c cs ih =>
    by_cases hc : c = '\n'
    · simp [splitBy, hc, ih]
    · cases hsplit : splitBy (· == '\n') cs with
      | nil => exact absurd hsplit (splitBy_ne_nil _ cs)
      | cons piece pieces =>
        rw [hsplit, List.length_cons] at ih
        simp [splitBy, hc, hsplit, ih]

theorem forall_not_beq {sep : Char} (h : sep ∉ cs) : ∀ c ∈ cs, ¬ (c == sep) := by
  intro c hc heq
  exact h (eq_of_beq heq ▸ hc)

/-- Everything in front of a line break is made of lines that have ended. -/
theorem linesOf_append (a b : List Char) :
    linesOf (a ++ '\n' :: b) = (splitBy (· == '\n') a).map dropReturn ++ linesOf b := by
  have hne := splitBy_ne_nil (· == '\n') b
  have hlast : (splitBy (· == '\n') a ++ splitBy (· == '\n') b).getLast? =
      (splitBy (· == '\n') b).getLast? := by
    rw [List.getLast?_append, Option.or_of_isSome (by simpa using hne)]
  rw [linesOf, linesOf, splitBy_append (by rfl), hlast, List.dropLast_append_of_ne_nil hne,
    List.map_append, List.append_assoc]

theorem dropReturn_concat (line : List Char) : dropReturn (line ++ ['\r']) = line := by
  simp [dropReturn]

theorem dropReturn_eq_self (h : line.getLast? ≠ some '\r') : dropReturn line = line := by
  rw [dropReturn]
  split
  case h_1 rest hreverse =>
    have hlast : line.getLast? = some '\r' := by
      rw [← List.head?_reverse, hreverse]
      rfl
    exact absurd hlast h
  case h_2 => rfl

/-! ## A line in a text -/

/-- What may follow a line: the end of the text, or a line break that takes as much as it can. -/
inductive EndsLine (line : List Char) : List Char → Prop
  | text : EndsLine line []
  | lf {below : List Char} : line.getLast? ≠ some '\r' → EndsLine line ('\n' :: below)
  | crlf {below : List Char} : EndsLine line ('\r' :: '\n' :: below)

/-- The text holds `line` between `above`, which is empty or ends with a line break, and `below`. -/
structure IsLine (cs above line below : List Char) : Prop where
  append_eq : cs = above ++ line ++ below
  starts : above = [] ∨ above.getLast? = some '\n'
  single : '\n' ∉ line
  ends : EndsLine line below

theorem exists_linesOf_eq_cons (hne : line ≠ []) (hline : '\n' ∉ line) (h : EndsLine line below) :
    ∃ rest, linesOf (line ++ below) = line :: rest := by
  cases h with
  | text =>
    refine ⟨[], ?_⟩
    rw [List.append_nil, linesOf, splitBy_eq_singleton (forall_not_beq hline)]
    simpa using hne
  | @lf below hlast =>
    refine ⟨linesOf below, ?_⟩
    rw [linesOf_append, splitBy_eq_singleton (forall_not_beq hline), List.map_singleton,
      dropReturn_eq_self hlast, List.singleton_append]
  | @crlf below =>
    refine ⟨linesOf below, ?_⟩
    have hreturn : '\n' ∉ line ++ ['\r'] := by simpa using hline
    calc
      linesOf (line ++ '\r' :: '\n' :: below) = linesOf (line ++ ['\r'] ++ '\n' :: below) := by
        rw [List.append_assoc, List.singleton_append]
      _ = [dropReturn (line ++ ['\r'])] ++ linesOf below := by
        rw [linesOf_append, splitBy_eq_singleton (forall_not_beq hreturn), List.map_singleton]
      _ = line :: linesOf below := by rw [dropReturn_concat, List.singleton_append]

/-- A line that is not empty is found by the number of line breaks above it. -/
theorem IsLine.getElem? (h : IsLine cs above line below) (hne : line ≠ []) :
    (linesOf cs)[above.count '\n']? = some line := by
  obtain ⟨rest, hrest⟩ := exists_linesOf_eq_cons hne h.single h.ends
  rw [h.append_eq, List.append_assoc]
  rcases h.starts with rfl | hlast
  · simp [hrest]
  · obtain ⟨front, rfl⟩ := List.getLast?_eq_some_iff.1 hlast
    have hlength : ((splitBy (· == '\n') front).map dropReturn).length =
        (front ++ ['\n']).count '\n' := by
      rw [List.length_map, length_splitBy, List.count_append, List.count_singleton_self]
    rw [List.append_assoc, List.singleton_append, linesOf_append, ← hlength,
      List.getElem?_append_right (Nat.le_refl _), Nat.sub_self, hrest]
    rfl

/-- The beginning of the line that a text ends in. -/
def lineStart (cs : List Char) : List Char := (lastLine cs).reverse

theorem exists_above (cs : List Char) :
    ∃ above, cs = above ++ lineStart cs ∧ (above = [] ∨ above.getLast? = some '\n') ∧
      '\n' ∉ lineStart cs := by
  refine ⟨(cs.reverse.dropWhile (· != '\n')).reverse, ?_, ?_, ?_⟩
  · rw [lineStart, lastLine, ← List.reverse_append, List.takeWhile_append_dropWhile,
      List.reverse_reverse]
  · rw [List.getLast?_reverse, List.reverse_eq_nil_iff]
    cases hdrop : cs.reverse.dropWhile (· != '\n') with
    | nil => exact .inl rfl
    | cons c rest =>
      have hc := List.head_dropWhile_not (· != '\n') (l := cs.reverse) (by simp [hdrop])
      simp only [hdrop, List.head_cons] at hc
      simpa using hc
  · rw [lineStart, List.mem_reverse]
    intro hmem
    simpa using List.mem_takeWhile_imp hmem

/-- A line goes on up to the next line break. It must not have gone half through one already. -/
theorem exists_below {after : List Char} (hline : '\n' ∉ line)
    (hlast : line.getLast? = some '\r' → after.head? ≠ some '\n') :
    ∃ tail below, after = tail ++ below ∧ '\n' ∉ line ++ tail ∧ EndsLine (line ++ tail) below := by
  induction after generalizing line with
  | nil => exact ⟨[], [], rfl, by simpa using hline, .text⟩
  | cons c after ih =>
    have hself : '\n' ∉ line ++ [] := by simpa using hline
    by_cases hbreak : c = '\n'
    · subst hbreak
      have hreturn : line.getLast? ≠ some '\r' := fun heq ↦ hlast heq rfl
      exact ⟨[], '\n' :: after, rfl, hself, .lf (by rwa [List.append_nil])⟩
    by_cases hreturn : c = '\r' ∧ after.head? = some '\n'
    · obtain ⟨rfl, hhead⟩ := hreturn
      obtain ⟨below, rfl⟩ := List.head?_eq_some_iff.1 hhead
      exact ⟨[], _, rfl, hself, .crlf⟩
    have hnext : (line ++ [c]).getLast? = some '\r' → after.head? ≠ some '\n' := by
      intro heq hhead
      rw [List.getLast?_concat, Option.some_inj] at heq
      exact hreturn ⟨heq, hhead⟩
    have hline' : '\n' ∉ line ++ [c] := by simpa [hline] using Ne.symm hbreak
    obtain ⟨tail, below, rfl, hsingle, hends⟩ := ih hline' hnext
    rw [List.append_assoc] at hsingle hends
    exact ⟨c :: tail, below, rfl, hsingle, hends⟩

/-- A character that is no part of a line break stands on a line, behind the characters of this line
that are in front of it. -/
theorem exists_isLine (before after : List Char) (hbreak : c ≠ '\n') (hreturn : c ≠ '\r') :
    ∃ above tail below, before = above ++ lineStart before ∧
      IsLine (before ++ c :: after) above (lineStart before ++ c :: tail) below := by
  obtain ⟨above, happend, hstarts, hstart⟩ := exists_above before
  have hline : '\n' ∉ lineStart before ++ [c] := by simpa [hstart] using Ne.symm hbreak
  have hlast : (lineStart before ++ [c]).getLast? = some '\r' → after.head? ≠ some '\n' := by
    intro heq
    rw [List.getLast?_concat, Option.some_inj] at heq
    exact absurd heq hreturn
  obtain ⟨tail, below, rfl, hsingle, hends⟩ := exists_below hline hlast
  rw [List.append_assoc, List.singleton_append] at hsingle hends
  refine ⟨above, tail, below, happend, ⟨?_, hstarts, hsingle, hends⟩⟩
  conv_lhs => rw [happend]
  simp only [List.append_assoc, List.cons_append]

/-- No line break stands between the beginning of a line and a character on it. -/
theorem count_above {before above : List Char} (h : before = above ++ lineStart before) :
    before.count '\n' = above.count '\n' := by
  obtain ⟨-, -, -, hstart⟩ := exists_above before
  have hzero : (lineStart before).count '\n' = 0 := List.count_eq_zero.2 hstart
  rw [h, List.count_append, hzero, Nat.add_zero]

end ReleaseAudit.Text
