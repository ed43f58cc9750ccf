import ReleaseAudit.Proofs.Token.Lexeme

/-!
# Gaps

Between its lexemes a text has blanks and comments. A comment takes all that is left of its line.
-/

namespace ReleaseAudit

namespace Reading

variable {c quote : Char} {cs rest k : List Char} {n : Nat}

/-- `w` is a comment with all that is left of its line, in front of `k`. -/
inductive IsComment : List Char → List Char → Prop
  | intro {opening body k : List Char} : opening = ['#'] ∨ opening = ['/', '/'] → '\n' ∉ body →
      (∀ d ∈ k.head?, d = '\n') → IsComment (opening ++ body) k

theorem IsComment.exists_cons {w : List Char} (h : IsComment w k) : ∃ c v, w = c :: v := by
  obtain ⟨rfl | rfl, _, _⟩ := h <;> exact ⟨_, _, rfl⟩

/-- `g` is a mix of blanks and comments, in front of `k`. -/
inductive IsGap : List Char → List Char → Prop
  | nil {k : List Char} : IsGap [] k
  | blank {c : Char} {g k : List Char} : c ∈ blanks → IsGap g k → IsGap (c :: g) k
  | comment {w g k : List Char} : IsComment w (g ++ k) → IsGap g k → IsGap (w ++ g) k

theorem takeWhile_line {body : List Char} (hbody : '\n' ∉ body) (hk : ∀ d ∈ k.head?, d = '\n') :
    (body ++ k).takeWhile (· != '\n') = body := by
  have hall : ∀ d ∈ body, (d != '\n') = true := by
    intro d hd
    simpa using fun heq : d = '\n' ↦ hbody (heq ▸ hd)
  rw [List.takeWhile_append_of_pos hall]
  cases k with
  | nil => simp
  | cons d k => simp [hk d rfl]

theorem of_comment {w : List Char} (h : IsComment w k) (hcs : c :: rest = w ++ k) :
    of c rest = gap w.length := by
  obtain ⟨hopening, hbody, hk⟩ := h
  have hof : of c rest = comment (c :: rest) := by
    rcases hopening with rfl | rfl <;> cases hcs <;> rfl
  rw [hof, comment, hcs, takeWhile_line ?_ hk]
  rcases hopening with rfl | rfl <;> simpa using hbody

theorem exists_line (cs : List Char) :
    ∃ body k, cs = body ++ k ∧ '\n' ∉ body ∧ ∀ d ∈ k.head?, d = '\n' := by
  induction cs with
  | nil => exact ⟨[], [], rfl, by simp, by simp⟩
  | cons c cs ih =>
    by_cases hc : c = '\n'
    · exact ⟨[], c :: cs, rfl, by simp, by simp [hc]⟩
    · obtain ⟨body, k, rfl, hbody, hk⟩ := ih
      exact ⟨c :: body, k, rfl, by simp [hbody, Ne.symm hc], hk⟩

theorem stringLiteral_ne_gap : stringLiteral quote cs ≠ gap n := by
  unfold stringLiteral
  split <;> simp

theorem numberLiteral_ne_gap : numberLiteral cs ≠ gap n := by
  unfold numberLiteral
  dsimp only
  split
  · simp
  · split <;> simp

theorem oneOrTwo_ne_gap {one two : Token} {second : Char} : oneOrTwo one second two cs ≠ gap n := by
  unfold oneOrTwo
  split <;> simp

theorem twice_ne_gap {two : Token} : twice c two cs ≠ gap n := by
  unfold twice
  split <;> simp

theorem exists_comment {opening : List Char} (hopening : opening = ['#'] ∨ opening = ['/', '/'])
    (hcs : c :: rest = opening ++ cs) (h : of c rest = gap n) :
    ∃ w k, c :: rest = w ++ k ∧ n = w.length ∧ IsComment w k := by
  obtain ⟨body, k, rfl, hbody, hk⟩ := exists_line cs
  have hcomment : IsComment (opening ++ body) k := .intro hopening hbody hk
  rw [← List.append_assoc] at hcs
  rw [of_comment hcomment hcs] at h
  cases h
  exact ⟨_, k, hcs, rfl, hcomment⟩

/-- A gap is one blank or one comment. -/
theorem of_eq_gap_iff :
    of c rest = gap n ↔
      c ∈ blanks ∧ n = 1 ∨ ∃ w k, c :: rest = w ++ k ∧ n = w.length ∧ IsComment w k := by
  constructor
  · intro h
    have hof := h
    unfold of at hof
    split at hof
    case h_1 | h_2 | h_3 | h_4 =>
      cases hof
      exact .inl ⟨by decide, rfl⟩
    case h_5 => exact .inr (exists_comment (.inl rfl) rfl h)
    case h_6 | h_7 => exact absurd hof stringLiteral_ne_gap
    case h_8 =>
      split at hof
      · cases hof
      · split at hof <;> cases hof
    case h_9 | h_10 | h_11 => exact absurd hof oneOrTwo_ne_gap
    case h_12 | h_13 => exact absurd hof twice_ne_gap
    case h_14 =>
      split at hof
      case isFalse => cases hof
      case isTrue hslash =>
        obtain ⟨cs, rfl⟩ := List.head?_eq_some_iff.1 (eq_of_beq hslash)
        exact .inr (exists_comment (.inr rfl) rfl h)
    case h_15 =>
      split at hof
      case h_1 => cases hof
      case h_2 =>
        split at hof
        case isTrue => exact absurd hof numberLiteral_ne_gap
        case isFalse => split at hof <;> cases hof
  · rintro (⟨hc, rfl⟩ | ⟨w, k, hcs, rfl, h⟩)
    · exact of_blank hc rest
    · exact of_comment h hcs

theorem isGap_cons {w g : List Char} (h : of c (w ++ (g ++ k)) = gap (w.length + 1))
    (hg : IsGap g k) : IsGap (c :: w ++ g) k := by
  rcases of_eq_gap_iff.1 h with ⟨hc, hlength⟩ | ⟨v, k', hcs, hlength, hcomment⟩
  · obtain rfl : w = [] := List.length_eq_zero_iff.1 (by omega)
    exact .blank hc hg
  · have hsplit : c :: w = v ∧ g ++ k = k' := List.append_inj hcs hlength
    obtain ⟨rfl, rfl⟩ := hsplit
    exact .comment hcomment hg

/-- A line break behind the text does not change a gap. -/
theorem gap_append (h : of c rest = gap n) (hk : ∀ d ∈ k.head?, d = '\n') :
    of c (rest ++ k) = gap n := by
  rcases of_eq_gap_iff.1 h with ⟨hc, rfl⟩ | ⟨w, k', hcs, rfl, hcomment⟩
  · exact of_blank hc _
  · obtain ⟨hopening, hbody, hk'⟩ := hcomment
    refine of_comment (k := k' ++ k) (.intro hopening hbody ?_) ?_
    · cases k' with
      | nil => exact hk
      | cons d k' => exact hk'
    · rw [← List.cons_append, hcs, List.append_assoc]

end Reading

end ReleaseAudit
