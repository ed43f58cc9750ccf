import ReleaseAudit.Proofs.Check.Expansion
import ReleaseAudit.Proofs.Text.Words

/-!
# What a line says

A line of a condition is told by its words: it holds a validation when the second of them is `valid:`.
The field is then the word in front of it, and the rule is all that stands behind it. The blanks around
a line and between its words, among them the CR of a line break, make no difference.
-/

namespace ReleaseAudit

open Text (IsWord isBlank trimChars trimStartChars words)

variable {text line field gap rest : List Char}

namespace Clause

/-- The word that makes a clause a validation. -/
def marker : List Char := "valid:".toList

/-- The text is a validation of `field`: this is its first word, and the second one is the marker, with
`rest` behind it. -/
structure Validates (text field gap rest : List Char) : Prop where
  append_eq : text = field ++ gap ++ marker ++ rest
  field : IsWord field
  gap_ne_nil : gap ≠ []
  gap_blank : ∀ c ∈ gap, isBlank c
  ends : ∀ c, rest.head? = some c → isBlank c

theorem isWord_marker : IsWord marker := by
  have hall : marker.all (!isBlank ·) := by decide
  exact ⟨by decide, by simpa using hall⟩

theorem Validates.words_eq (h : Validates text field gap rest) :
    words text = field :: marker :: words rest := by
  obtain ⟨c, gap', rfl⟩ := List.exists_cons_of_ne_nil h.gap_ne_nil
  obtain ⟨hc, hblank⟩ := List.forall_mem_cons.1 h.gap_blank
  calc
    words text = words (field ++ c :: (gap' ++ (marker ++ rest))) := by
      rw [h.append_eq, List.append_assoc, List.append_assoc, List.cons_append]
    _ = field :: words (gap' ++ (marker ++ rest)) := by
      rw [h.field.words_append (by simpa using hc), Text.words_cons_of_blank hc]
    _ = field :: words (marker ++ rest) := by
      rw [← Text.words_trimStartChars, isWord_marker.trimStartChars_eq hblank]
    _ = _ := by rw [isWord_marker.words_append h.ends]

/-- The word, the blanks behind it, and the marker behind these. -/
theorem exists_validates_of_append {back : List Char} (hfield : IsWord field)
    (happend : text = field ++ back) (hback : ∀ c, back.head? = some c → isBlank c)
    (hstart : trimStartChars back = marker ++ rest) (hends : ∀ c, rest.head? = some c → isBlank c) :
    ∃ gap, Validates text field gap rest := by
  have hsplit : back = back.takeWhile isBlank ++ (marker ++ rest) := by
    rw [← hstart, trimStartChars, List.takeWhile_append_dropWhile]
  refine ⟨back.takeWhile isBlank, ?_, hfield, ?_, fun c hc ↦ List.mem_takeWhile_imp hc, hends⟩
  · rw [happend, List.append_assoc, List.append_assoc, ← hsplit]
  · intro hnil
    rw [hnil, List.nil_append] at hsplit
    have hmarker : back.head? = some 'v' := by
      rw [hsplit]
      rfl
    exact absurd (hback 'v' hmarker) (by decide)

variable (hfirst : ∀ c, text.head? = some c → ¬ isBlank c)
include hfirst

/-- A text whose second word is the marker is a validation. -/
theorem exists_validates (h : (words text)[1]? = some marker) :
    ∃ field gap rest, Validates text field gap rest := by
  cases hwords : words text with
  | nil => simp [hwords] at h
  | cons field ws =>
    obtain ⟨hfield, back, hstart, hback, rfl⟩ := Text.words_eq_cons_iff.1 hwords
    have happend : text = field ++ back := by
      rw [← hstart, trimStartChars, Text.dropWhile_eq_self hfirst]
    rw [hwords, List.getElem?_cons_succ, ← List.head?_eq_getElem?, List.head?_eq_some_iff] at h
    obtain ⟨ws, hsecond⟩ := h
    obtain ⟨-, rest, hrest, hends, -⟩ := Text.words_eq_cons_iff.1 hsecond
    exact ⟨field, _, rest, (exists_validates_of_append hfield happend hback hrest hends).choose_spec⟩

theorem validation?_eq_some_iff {f r : String} :
    validation? text = some (f, r) ↔
      ∃ gap rest, Validates text f.toList gap rest ∧ r = String.ofList (trimChars rest) := by
  constructor
  · intro h
    obtain ⟨⟨field, back⟩, hcut, hbehind⟩ := Option.bind_eq_some_iff.1 h
    obtain ⟨rest, hstrip, hrule⟩ := Option.bind_eq_some_iff.1 hbehind
    obtain ⟨c, rfl, hc, hblank⟩ := Text.cutAt?_eq_some_iff.1 hcut
    obtain ⟨hends, heq⟩ := (Option.ite_none_right_eq_some).1 hrule
    cases heq
    have hne : field ≠ [] := by
      rintro rfl
      exact hfirst c rfl hc
    have hstart : trimStartChars (c :: back) = marker ++ rest := by
      rw [trimStartChars, List.dropWhile_cons_of_pos hc]
      exact Text.stripPrefix?_eq_some hstrip
    obtain ⟨gap, hvalid⟩ := exists_validates_of_append ⟨hne, hblank⟩ rfl (by simpa using hc) hstart
      ((Option.all_eq_true _ _).1 hends)
    exact ⟨gap, rest, by rwa [String.toList_ofList], rfl⟩
  · rintro ⟨gap, rest, hvalid, rfl⟩
    obtain ⟨c, gap', rfl⟩ := List.exists_cons_of_ne_nil hvalid.gap_ne_nil
    obtain ⟨hc, hblank⟩ := List.forall_mem_cons.1 hvalid.gap_blank
    have hcut : Text.cutAt? isBlank text = some (f.toList, gap' ++ (marker ++ rest)) := by
      refine Text.cutAt?_eq_some_iff.2 ⟨c, ?_, hc, hvalid.field.not_blank⟩
      rw [hvalid.append_eq, List.append_assoc, List.append_assoc, List.cons_append]
    have hstrip : Text.stripPrefix? marker (trimStartChars (gap' ++ (marker ++ rest))) = some rest := by
      rw [isWord_marker.trimStartChars_eq hblank, Text.stripPrefix?_append]
    have hends : rest.head?.all isBlank := (Option.all_eq_true _ _).2 hvalid.ends
    refine Option.bind_eq_some_iff.2 ⟨_, hcut, Option.bind_eq_some_iff.2 ⟨rest, hstrip, ?_⟩⟩
    rw [if_pos hends, String.ofList_toList]

/-- A text is a validation when its second word is the marker. -/
theorem exists_validation?_iff :
    (∃ f r, validation? text = some (f, r)) ↔ (words text)[1]? = some marker := by
  constructor
  · rintro ⟨f, r, h⟩
    obtain ⟨gap, rest, hvalid, -⟩ := (validation?_eq_some_iff hfirst).1 h
    rw [hvalid.words_eq]
    rfl
  · intro h
    obtain ⟨field, gap, rest, hvalid⟩ := exists_validates hfirst h
    have hvalid' : Validates text (String.ofList field).toList gap rest := by
      rwa [String.toList_ofList]
    exact ⟨_, _, (validation?_eq_some_iff hfirst).2 ⟨gap, rest, hvalid', rfl⟩⟩

omit hfirst

/-! ## Lines -/

theorem ofLine?_eq (line : List Char) :
    ofLine? line =
      if Step.HoldsClause (trimChars line) then
        match validation? (trimChars line) with
        | some (field, rule) => some (validation (String.ofList (trimChars line)) field rule)
        | none => some (expression (String.ofList (trimChars line)))
      else none := by
  rw [ofLine?]
  by_cases hholds : Step.HoldsClause (trimChars line)
  · exact (if_neg (mt skips_iff.1 (not_not_intro hholds))).trans (if_pos hholds).symm
  · exact (if_pos (skips_iff.2 hholds)).trans (if_neg hholds).symm

theorem ofLine?_eq_none_iff : ofLine? line = none ↔ ¬ Step.HoldsClause (trimChars line) := by
  rw [ofLine?_eq]
  cases validation? (trimChars line) <;> simp

theorem ofLine?_eq_validation_iff {t f r : String} :
    ofLine? line = some (validation t f r) ↔ Step.HoldsClause (trimChars line) ∧
      t = String.ofList (trimChars line) ∧ validation? (trimChars line) = some (f, r) := by
  rw [ofLine?_eq]
  cases validation? (trimChars line) with
  | none => simp
  | some found => grind

theorem ofLine?_eq_expression_iff {t : String} :
    ofLine? line = some (expression t) ↔ Step.HoldsClause (trimChars line) ∧
      t = String.ofList (trimChars line) ∧ validation? (trimChars line) = none := by
  rw [ofLine?_eq]
  cases validation? (trimChars line) with
  | none => grind
  | some found => simp

/-- What a line holds, told by its words. -/
structure Told (line : List Char) : Prop where
  none_iff : ofLine? line = none ↔
    trimChars line = [] ∨ ['#'] <+: trimChars line ∨ ['/', '/'] <+: trimChars line
  validation_iff : (∃ t f r, ofLine? line = some (validation t f r)) ↔
    ofLine? line ≠ none ∧ (words line)[1]? = some marker
  /-- The rule is all that stands behind the first marker, other markers among it. -/
  validates : ∀ t f r, ofLine? line = some (validation t f r) →
    t = String.ofList (trimChars line) ∧ (words line)[0]? = some f.toList ∧
      ∃ gap rest, Validates (trimChars line) f.toList gap rest ∧ r = String.ofList (trimChars rest)
  expression_iff : ofLine? line = some (expression (String.ofList (trimChars line))) ↔
    ofLine? line ≠ none ∧ (words line)[1]? ≠ some marker
  return_eq : ofLine? (line ++ ['\r']) = ofLine? line

theorem told (line : List Char) : Told line := by
  have hfirst : ∀ c, (trimChars line).head? = some c → ¬ isBlank c :=
    fun c hc ↦ Text.not_isBlank_of_head?_trimChars hc
  have hmarker := exists_validation?_iff hfirst
  rw [Text.words_trimChars] at hmarker
  have hholds : ofLine? line ≠ none ↔ Step.HoldsClause (trimChars line) := by
    rw [ne_eq, ofLine?_eq_none_iff, not_not]
  refine ⟨?none, ?validation, fun t f r h ↦ ?validates, ?expression, ?behind⟩
  case none =>
    rw [ofLine?_eq_none_iff, Step.HoldsClause]
    grind
  case validation =>
    rw [hholds, ← hmarker]
    constructor
    · rintro ⟨t, f, r, h⟩
      obtain ⟨hclause, -, hfound⟩ := ofLine?_eq_validation_iff.1 h
      exact ⟨hclause, f, r, hfound⟩
    · rintro ⟨hclause, f, r, hfound⟩
      exact ⟨_, f, r, ofLine?_eq_validation_iff.2 ⟨hclause, rfl, hfound⟩⟩
  case validates =>
    obtain ⟨-, htext, hfound⟩ := ofLine?_eq_validation_iff.1 h
    obtain ⟨gap, rest, hvalid, hrule⟩ := (validation?_eq_some_iff hfirst).1 hfound
    refine ⟨htext, ?_, gap, rest, hvalid, hrule⟩
    rw [← Text.words_trimChars, hvalid.words_eq]
    rfl
  case expression =>
    have hnone : validation? (trimChars line) = none ↔ ¬ ∃ f r, validation? (trimChars line) = some (f, r) := by
      simp [Option.eq_none_iff_forall_ne_some]
    rw [ofLine?_eq_expression_iff, hholds, ne_eq, ← hmarker, ← hnone]
    exact and_congr_right fun _ ↦ and_iff_right rfl
  case behind =>
    have hreturn : ∀ c ∈ ['\r'], isBlank c := List.forall_mem_singleton.2 (by decide)
    rw [ofLine?_eq, ofLine?_eq, Text.trimChars_append_right hreturn]

end Clause

/-- A condition holds what its lines hold, in their order; and these are told by their words. -/
theorem Step.clauses_told (s : Step) :
    (∀ line, Clause.Told line) ∧
      ∃ lines, lines ≠ [] ∧ (∀ line ∈ lines, '\n' ∉ line) ∧
        s.condition.toList = Text.join ['\n'] lines ∧ s.clauses = lines.filterMap Clause.ofLine? := by
  refine ⟨Clause.told, Text.splitBy (· == '\n') s.condition.toList, ?_, ?_, ?_, rfl⟩
  · exact Text.splitBy_ne_nil _ _
  · exact fun line hline ↦ Text.notMem_of_mem_splitBy hline
  · exact (Text.join_splitBy '\n' _).symm

-- A tab ends the field, a second marker belongs to the rule, and the CR to the line break.
example : Clause.ofLine? " a\t valid: x valid: y \r".toList =
    some (.validation "a\t valid: x valid: y" "a" "x valid: y") := by decide

end ReleaseAudit
