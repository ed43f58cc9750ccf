import Mathlib.Data.List.Forall2
import ReleaseAudit.Proofs.Rule.Nesting

/-!
# Reading written rules

A validator is written as its name, or as its name and arguments between parentheses. Between the
parentheses of a pattern stands any text in which parentheses are balanced; other arguments have bars
between them. White space may stand around names, arguments and parts, and a message behind a part. A
rule written from such parts is read as the validators that were written.
-/

namespace ReleaseAudit.Rule

open Text (IsWord isBlank trimChars)

variable {v : Validator} {vs : List Validator} {name : String} {args : List String} {sep : Char}
  {cs padded text inner part : List Char} {parts : List (List Char)}

/-! ## The layout -/

/-- `padded` is `cs` with white space around it. -/
def IsPadded (cs padded : List Char) : Prop :=
  ∃ front back, (∀ c ∈ front, isBlank c) ∧ (∀ c ∈ back, isBlank c) ∧ padded = front ++ cs ++ back

/-- A word without the characters that have a meaning in rules. -/
structure IsValidatorName (name : List Char) : Prop where
  word : IsWord name
  plain : ∀ c ∈ ['(', ')', ',', '~'], c ∉ name

/-- An argument that is not a pattern, with white space around it and none at its own ends. -/
structure SpellsArg (arg : String) (text : List Char) : Prop where
  first : ∀ c ∈ arg.toList.head?, ¬ isBlank c
  last : ∀ c ∈ arg.toList.getLast?, ¬ isBlank c
  bar : '|' ∉ arg.toList
  balanced : Balanced arg.toList
  padded : IsPadded arg.toList text

/-- What stands between the parentheses behind a name. -/
inductive SpellsArgs (name : String) : List String → List Char → Prop
  | pattern {source : String} : name = "matches" → Balanced source.toList →
      SpellsArgs name [source] source.toList
  | listed {args : List String} {texts : List (List Char)} : name ≠ "matches" → args ≠ [] →
      List.Forall₂ SpellsArg args texts → SpellsArgs name args (Text.join ['|'] texts)

/-- A validator from its name up to its last parenthesis. -/
inductive Spells : Validator → List Char → Prop
  | bare {name : String} : IsValidatorName name.toList → Spells ⟨name, []⟩ name.toList
  | called {name : String} {args : List String} {gap inner : List Char} :
      IsValidatorName name.toList → (∀ c ∈ gap, isBlank c) → SpellsArgs name args inner →
      Spells ⟨name, args⟩ (name.toList ++ gap ++ '(' :: (inner ++ [')']))

/-- A part of a rule: a validator with white space around it, and perhaps a message. -/
inductive SpellsPart (v : Validator) : List Char → Prop
  | plain {text part : List Char} : Spells v text → IsPadded text part → SpellsPart v part
  | message {text part message : List Char} : Spells v text → IsPadded text part → ',' ∉ message →
      Balanced message → SpellsPart v (part ++ '~' :: message)

/-! ## White space -/

theorem notMem_of_blank (h : ∀ c ∈ cs, isBlank c) (hsep : ¬ isBlank sep) : sep ∉ cs :=
  fun hmem ↦ hsep (h sep hmem)

theorem Balanced.of_blank (h : ∀ c ∈ cs, isBlank c) : Balanced cs :=
  .of_notMem (notMem_of_blank h (by decide)) (notMem_of_blank h (by decide))

namespace IsPadded

variable (h : IsPadded cs padded)

include h

theorem trimChars_eq : trimChars padded = trimChars cs := by
  obtain ⟨front, back, hfront, hback, rfl⟩ := h
  rw [Text.trimChars_append_right hback, Text.trimChars_append_left hfront]

theorem balanced (hcs : Balanced cs) : Balanced padded := by
  obtain ⟨front, back, hfront, hback, rfl⟩ := h
  exact ((Balanced.of_blank hfront).append hcs).append (.of_blank hback)

theorem notMem (hsep : ¬ isBlank sep) (hcs : sep ∉ cs) : sep ∉ padded := by
  obtain ⟨front, back, hfront, hback, rfl⟩ := h
  simp [notMem_of_blank hfront hsep, notMem_of_blank hback hsep, hcs]

theorem covers (hsep : ¬ isBlank sep) (hcovers : Covers sep 0 cs) : Covers sep 0 padded := by
  obtain ⟨front, back, hfront, hback, rfl⟩ := h
  have hopen : openBehind 0 front = 0 := (Balanced.of_blank hfront).openBehind_eq 0
  rw [List.append_assoc, covers_append, covers_append, hopen]
  exact ⟨covers_of_notMem (notMem_of_blank hfront hsep) 0, hcovers,
    covers_of_notMem (notMem_of_blank hback hsep) _⟩

theorem trimStart (hne : cs ≠ []) (hfirst : ∀ c, cs.head? = some c → ¬ isBlank c) :
    IsPadded cs (Text.trimStartChars padded) := by
  obtain ⟨front, back, hfront, hback, rfl⟩ := h
  refine ⟨[], back, List.forall_mem_nil _, hback, ?_⟩
  rw [Text.trimStartChars, List.append_assoc, List.dropWhile_append_of_pos hfront,
    Text.dropWhile_eq_self, List.nil_append]
  intro c hc
  rw [List.head?_append_of_ne_nil _ hne] at hc
  exact hfirst c hc

end IsPadded

/-! ## Lists of pieces -/

section

variable {α β : Type} {R : α → β → Prop} {p : β → Prop} {xs : List α} {ys : List β}

theorem forall_mem_right (h : List.Forall₂ R xs ys) (hp : ∀ x y, R x y → p y) : ∀ y ∈ ys, p y := by
  induction h with
  | nil => exact List.forall_mem_nil p
  | cons hxy _ ih => exact List.forall_mem_cons.2 ⟨hp _ _ hxy, ih⟩

theorem ne_nil_right (h : List.Forall₂ R xs ys) (hne : xs ≠ []) : ys ≠ [] := by
  intro hys
  rw [hys, List.forall₂_nil_right_iff] at h
  exact hne h

end

/-! ## Arguments -/

theorem SpellsArg.ofList_trimChars {arg : String} (h : SpellsArg arg text) :
    String.ofList (trimChars text) = arg := by
  rw [h.padded.trimChars_eq, Text.trimChars_eq_self h.first h.last, String.ofList_toList]

namespace SpellsArgs

variable (h : SpellsArgs name args inner)

include h

theorem balanced : Balanced inner := by
  cases h with
  | pattern _ hsource => exact hsource
  | listed _ _ htexts =>
    apply Balanced.join (.of_notMem (by decide) (by decide))
    exact forall_mem_right htexts fun arg text htext ↦ htext.padded.balanced htext.balanced

theorem splitArgs_eq : splitArgs name inner = args := by
  cases h with
  | pattern hname _ => simp [splitArgs, hname]
  | @listed _ texts hname hne htexts =>
    have hbar : ∀ text ∈ texts, '|' ∉ text :=
      forall_mem_right htexts fun arg text htext ↦ htext.padded.notMem (by decide) htext.bar
    have hargs : List.Forall₂ (· = ·) args (texts.map fun text ↦ String.ofList (trimChars text)) :=
      List.forall₂_map_right_iff.2 (htexts.imp fun arg text htext ↦ htext.ofList_trimChars.symm)
    rw [List.forall₂_eq_eq_eq] at hargs
    rw [splitArgs, if_neg (by simpa using hname), Text.splitBy_join (ne_nil_right htexts hne) hbar, hargs]

end SpellsArgs

/-! ## Validators -/

/-- Whether a text is a name is decided character by character. -/
theorem isValidatorName_iff :
    IsValidatorName cs ↔ cs ≠ [] ∧ cs.all fun c ↦ !isBlank c && !(['(', ')', ',', '~'].contains c) := by
  constructor
  · intro h
    refine ⟨h.word.ne_nil, List.all_eq_true.2 fun c hc ↦ ?_⟩
    have hblank := h.word.not_blank c hc
    have hplain : c ∉ ['(', ')', ',', '~'] := fun hmem ↦ h.plain c hmem hc
    simpa [hblank] using hplain
  · rintro ⟨hne, hall⟩
    have hchar : ∀ c ∈ cs, ¬ isBlank c ∧ c ∉ ['(', ')', ',', '~'] := by
      intro c hc
      simpa using List.all_eq_true.1 hall c hc
    exact ⟨⟨hne, fun c hc ↦ (hchar c hc).1⟩, fun c hplain hc ↦ (hchar c hc).2 hplain⟩

instance : DecidablePred IsValidatorName := fun _ ↦ decidable_of_iff _ isValidatorName_iff.symm

theorem IsValidatorName.balanced (h : IsValidatorName cs) : Balanced cs :=
  .of_notMem (h.plain '(' (by decide)) (h.plain ')' (by decide))

namespace Spells

variable (h : Spells v text)

include h

theorem head?_not_blank : ∀ c, text.head? = some c → ¬ isBlank c := by
  intro c hc
  cases h with
  | bare hname => exact hname.word.not_blank c (List.mem_of_head? hc)
  | called hname _ _ =>
    rw [List.append_assoc, List.head?_append_of_ne_nil _ hname.word.ne_nil] at hc
    exact hname.word.not_blank c (List.mem_of_head? hc)

theorem getLast?_not_blank : ∀ c, text.getLast? = some c → ¬ isBlank c := by
  intro c hc
  cases h with
  | bare hname => exact hname.word.not_blank c (List.mem_of_getLast? hc)
  | called _ _ _ =>
    rw [← List.cons_append, ← List.append_assoc, List.getLast?_concat] at hc
    cases hc
    decide

theorem ne_nil : text ≠ [] := by
  cases h with
  | bare hname => exact hname.word.ne_nil
  | called _ _ _ => simp

theorem trimChars_eq : trimChars text = text :=
  Text.trimChars_eq_self h.head?_not_blank h.getLast?_not_blank

theorem balanced : Balanced text := by
  cases h with
  | bare hname => exact hname.balanced
  | called hname hgap hargs =>
    exact (hname.balanced.append (.of_blank hgap)).append (.paren hargs.balanced .nil)

/-- Commas and tildes stand between the parentheses only. -/
theorem covers (hsep : sep = ',' ∨ sep = '~') : Covers sep 0 text := by
  have hblank : ¬ isBlank sep := by rcases hsep with rfl | rfl <;> decide
  have hparen : sep ≠ '(' := by rcases hsep with rfl | rfl <;> decide
  have hplain : sep ∈ ['(', ')', ',', '~'] := by rcases hsep with rfl | rfl <;> decide
  cases h with
  | bare hname => exact covers_of_notMem (hname.plain sep hplain) 0
  | called hname hgap hargs =>
    have hfront := hname.balanced.append (.of_blank hgap)
    rw [covers_append, hfront.openBehind_eq]
    refine ⟨covers_of_notMem ?_ 0, hargs.balanced.covers_paren hparen 0⟩
    exact List.not_mem_append (hname.plain sep hplain) (notMem_of_blank hgap hblank)

/-- A part of which nothing but the validator is left is read as this validator. -/
theorem readValidator_eq (htext : trimChars (dropMessage 0 part) = text) :
    readValidator part = .ok v := by
  rw [readValidator]
  simp only [htext]
  cases h with
  | @bare name hname =>
    rw [Text.cutAt?_eq_none (hname.plain '(' (by decide))]
    simp
  | @called name args gap inner hname hgap hargs =>
    have hopen : '(' ∉ name.toList ++ gap :=
      List.not_mem_append (hname.plain '(' (by decide)) (notMem_of_blank hgap (by decide))
    have htrim : trimChars (name.toList ++ gap) = name.toList := by
      rw [Text.trimChars_append_right hgap, hname.word.trimChars_eq]
    rw [Text.cutAt?_append_cons hopen]
    simp [Text.stripSuffix?_append, htrim, hargs.splitArgs_eq]

end Spells

/-! ## Parts -/

namespace SpellsPart

variable (h : SpellsPart v part)

include h

theorem covers : Covers ',' 0 part := by
  cases h with
  | plain htext hpart => exact hpart.covers (by decide) (htext.covers (.inl rfl))
  | message htext hpart hcomma _ =>
    refine covers_append.2 ⟨hpart.covers (by decide) (htext.covers (.inl rfl)), ?_⟩
    apply covers_of_notMem
    simpa using hcomma

theorem balanced : Balanced part := by
  cases h with
  | plain htext hpart => exact hpart.balanced htext.balanced
  | message htext hpart _ hmessage =>
    exact (hpart.balanced htext.balanced).append (.plain (by decide) (by decide) hmessage)

/-- A part is trimmed before its message is dropped. The tilde is not blank, so nothing in front of it
is cut off at the end. -/
theorem exists_spells :
    ∃ text, Spells v text ∧ trimChars (dropMessage 0 (trimChars part)) = text := by
  cases h with
  | @plain text part htext hpart =>
    refine ⟨text, htext, ?_⟩
    rw [hpart.trimChars_eq, htext.trimChars_eq, dropMessage_eq_self (htext.covers (.inr rfl)),
      htext.trimChars_eq]
  | @message text part message htext hpart _ _ =>
    refine ⟨text, htext, ?_⟩
    have hstart : IsPadded text (Text.trimStartChars part) :=
      hpart.trimStart htext.ne_nil htext.head?_not_blank
    have hcovers : Covers '~' 0 (Text.trimStartChars part) :=
      hstart.covers (by decide) (htext.covers (.inr rfl))
    have hopen : openBehind 0 (Text.trimStartChars part) = 0 :=
      (hstart.balanced htext.balanced).openBehind_eq 0
    rw [Text.trimChars_append_cons (by decide), dropMessage_append hcovers hopen,
      hstart.trimChars_eq, htext.trimChars_eq]

theorem trimChars_ne_nil : trimChars part ≠ [] := by
  cases h with
  | plain htext hpart =>
    rw [hpart.trimChars_eq, htext.trimChars_eq]
    exact htext.ne_nil
  | message _ _ _ _ =>
    rw [Text.trimChars_append_cons (by decide)]
    exact List.append_ne_nil_of_right_ne_nil _ (List.cons_ne_nil _ _)

end SpellsPart

theorem mapM_readValidator (h : List.Forall₂ SpellsPart vs parts) :
    (parts.map trimChars).mapM readValidator = .ok vs := by
  induction h with
  | nil => rfl
  | cons hpart _ ih =>
    obtain ⟨text, htext, hdrop⟩ := hpart.exists_spells
    rw [List.map_cons, List.mapM_cons, htext.readValidator_eq hdrop, ih]
    rfl

/-- A written rule is read as the validators that were written, in their order. -/
theorem parse_written (hne : vs ≠ []) (h : List.Forall₂ SpellsPart vs parts) :
    parse (String.ofList (Text.join [','] parts)) = .ok vs := by
  have hsplit : splitTopLevel 0 (Text.join [','] parts) = parts := by
    apply splitTopLevel_join (ne_nil_right h hne)
    exact forall_mem_right h fun v part hpart ↦ ⟨hpart.covers, hpart.balanced.openBehind_eq 0⟩
  have hfull : ∀ text ∈ parts.map trimChars, !text.isEmpty := by
    intro text htext
    obtain ⟨part, hpart, rfl⟩ := List.mem_map.1 htext
    have hne : trimChars part ≠ [] :=
      forall_mem_right h (fun v part hpart ↦ hpart.trimChars_ne_nil) part hpart
    simpa using hne
  apply parse_eq_ok_iff.2
  rw [String.toList_ofList, validatorTexts, hsplit, List.filter_eq_self.2 hfull]
  exact ⟨mapM_readValidator h, hne⟩

/-- A list with an empty argument and a message, and a pattern with a bar, a comma, a tilde and a blank at
its end; there are parentheses in all of them. -/
theorem parse_written_sample :
    parse " in ( (a,b)| ) ~ one (of) two,matches(^(a|b),~ )" =
      .ok [⟨"in", ["(a,b)", ""]⟩, ⟨"matches", ["^(a|b),~ "]⟩] := by
  have hblank : ∀ c ∈ [' '], isBlank c := List.forall_mem_singleton.2 (by decide)
  have hargs : SpellsArgs "in" ["(a,b)", ""] (Text.join ['|'] [" (a,b)".toList, " ".toList]) := by
    have hopen : ¬ isBlank '(' := by decide
    have hclose : ¬ isBlank ')' := by decide
    have hfirst : SpellsArg "(a,b)" " (a,b)".toList :=
      ⟨by simpa using hopen, by simpa using hclose, by decide, by decide,
        [' '], [], hblank, List.forall_mem_nil _, rfl⟩
    have hsecond : SpellsArg "" " ".toList :=
      ⟨by simp, by simp, by decide, by decide, [' '], [], hblank, List.forall_mem_nil _, rfl⟩
    exact .listed (by decide) (by simp) (.cons hfirst (.cons hsecond .nil))
  have hin : SpellsPart ⟨"in", ["(a,b)", ""]⟩
      (" in ( (a,b)| ) ".toList ++ '~' :: " one (of) two".toList) := by
    have hname : IsValidatorName "in".toList := by decide
    apply SpellsPart.message (Spells.called hname hblank hargs)
    · exact ⟨[' '], [' '], hblank, hblank, by decide⟩
    · decide
    · decide
  have hmatches : SpellsPart ⟨"matches", ["^(a|b),~ "]⟩ "matches(^(a|b),~ )".toList := by
    have hname : IsValidatorName "matches".toList := by decide
    have hsource : Balanced "^(a|b),~ ".toList := by decide
    apply SpellsPart.plain (Spells.called hname (List.forall_mem_nil _) (.pattern rfl hsource))
    exact ⟨[], [], List.forall_mem_nil _, List.forall_mem_nil _, by decide⟩
  have hrule : " in ( (a,b)| ) ~ one (of) two,matches(^(a|b),~ )" =
      String.ofList (Text.join [','] [" in ( (a,b)| ) ".toList ++ '~' :: " one (of) two".toList,
        "matches(^(a|b),~ )".toList]) := by
    decide +kernel
  rw [hrule]
  exact parse_written (by simp) (.cons hin (.cons hmatches .nil))

end ReleaseAudit.Rule
