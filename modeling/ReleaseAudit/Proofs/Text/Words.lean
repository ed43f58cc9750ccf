import Mathlib.Data.List.DropRight
import ReleaseAudit.Proofs.Text.Line
import ReleaseAudit.Text.Blank

/-!
# Trimming, pieces and words

What is left of a text that was put together from parts. Trimming takes off the blanks around it, and
splitting takes out the separators; neither touches the parts.
-/

namespace ReleaseAudit.Text

variable {a b cs front back word : List Char} {pieces : List (List Char)} {sep : Char}

/-! ## Trimming -/

section

variable {α : Type} {p : α → Bool} {xs ys : List α}

theorem dropEndWhile_append (hys : ∀ x ∈ ys, p x) : dropEndWhile p (xs ++ ys) = dropEndWhile p xs := by
  have hreverse : ∀ x ∈ ys.reverse, p x := fun x hx ↦ hys x (List.mem_reverse.1 hx)
  rw [dropEndWhile, List.reverse_append, List.dropWhile_append_of_pos hreverse, dropEndWhile]

theorem dropEndWhile_eq_self (hlast : ∀ x, xs.getLast? = some x → ¬ p x) : dropEndWhile p xs = xs := by
  apply List.rdropWhile_eq_self_iff.2
  intro hne
  exact hlast _ (List.getLast?_eq_some_getLast hne)

theorem dropEndWhile_append_cons {x : α} (hx : ¬ p x) :
    dropEndWhile p (xs ++ x :: ys) = xs ++ x :: dropEndWhile p ys := by
  rw [dropEndWhile, List.reverse_append, List.reverse_cons, List.append_assoc, List.singleton_append,
    List.dropWhile_append, List.dropWhile_cons_of_neg hx, dropEndWhile]
  cases ys.reverse.dropWhile p <;> simp

/-- What is dropped at the end. -/
theorem exists_dropEndWhile (p : α → Bool) (xs : List α) :
    ∃ back, xs = dropEndWhile p xs ++ back ∧ ∀ x ∈ back, p x := by
  refine ⟨(xs.reverse.takeWhile p).reverse, ?_, fun x hx ↦ ?_⟩
  · rw [dropEndWhile, ← List.reverse_append, List.takeWhile_append_dropWhile, List.reverse_reverse]
  · exact List.mem_takeWhile_imp (List.mem_reverse.1 hx)

theorem not_of_getLast?_dropEndWhile {x : α} (h : (dropEndWhile p xs).getLast? = some x) : ¬ p x := by
  have hstop := List.head?_dropWhile_not p xs.reverse
  rw [dropEndWhile, List.getLast?_reverse] at h
  rw [h] at hstop
  simpa using hstop

theorem dropWhile_eq_self (hfirst : ∀ x, xs.head? = some x → ¬ p x) : xs.dropWhile p = xs := by
  cases xs with
  | nil => rfl
  | cons x xs => exact List.dropWhile_cons_of_neg (hfirst x rfl)

end

theorem trimChars_append_left (hfront : ∀ c ∈ front, isBlank c) :
    trimChars (front ++ cs) = trimChars cs := by
  rw [trimChars, trimStartChars, List.dropWhile_append_of_pos hfront]
  rfl

theorem trimChars_append_right (hback : ∀ c ∈ back, isBlank c) :
    trimChars (cs ++ back) = trimChars cs := by
  have hnone : back.dropWhile isBlank = [] := List.dropWhile_eq_nil_iff.2 hback
  rw [trimChars, trimStartChars, List.dropWhile_append, trimChars, trimStartChars]
  cases hstart : cs.dropWhile isBlank with
  | nil => rw [List.isEmpty_nil, if_pos rfl, hnone]
  | cons c rest => exact dropEndWhile_append hback

/-- Trimming leaves a text alone that has no blank at either end. -/
theorem trimChars_eq_self (hfirst : ∀ c, cs.head? = some c → ¬ isBlank c)
    (hlast : ∀ c, cs.getLast? = some c → ¬ isBlank c) : trimChars cs = cs := by
  rw [trimChars, trimStartChars, dropWhile_eq_self hfirst]
  exact dropEndWhile_eq_self hlast

/-- Trimming does not reach beyond a character that is not blank. -/
theorem trimChars_append_cons {c : Char} (hc : ¬ isBlank c) (a b : List Char) :
    trimChars (a ++ c :: b) = trimStartChars a ++ c :: trimEndChars b := by
  have hstart : trimStartChars (a ++ c :: b) = trimStartChars a ++ c :: b := by
    rw [trimStartChars, List.dropWhile_append, List.dropWhile_cons_of_neg hc, trimStartChars]
    cases a.dropWhile isBlank <;> rfl
  rw [trimChars, hstart, trimEndChars, dropEndWhile_append_cons hc, trimEndChars]

theorem not_isBlank_of_head? {c : Char} (h : (trimStartChars cs).head? = some c) : ¬ isBlank c := by
  have hstop := List.head?_dropWhile_not isBlank cs
  rw [← trimStartChars, h] at hstop
  simpa using hstop

/-- What is trimmed at the end. -/
theorem exists_trimEndChars (cs : List Char) :
    ∃ back, cs = trimEndChars cs ++ back ∧ ∀ c ∈ back, isBlank c :=
  exists_dropEndWhile isBlank cs

theorem not_isBlank_of_head?_trimChars {c : Char} (h : (trimChars cs).head? = some c) :
    ¬ isBlank c := by
  obtain ⟨back, hback, -⟩ := exists_trimEndChars (trimStartChars cs)
  have hne : trimEndChars (trimStartChars cs) ≠ [] := List.ne_nil_of_mem (List.mem_of_head? h)
  have hhead : (trimStartChars cs).head? = some c := by
    rw [hback, List.head?_append_of_ne_nil _ hne]
    exact h
  exact not_isBlank_of_head? hhead

theorem not_isBlank_of_getLast?_trimChars {c : Char} (h : (trimChars cs).getLast? = some c) :
    ¬ isBlank c :=
  not_of_getLast?_dropEndWhile h

theorem trimChars_trimChars (cs : List Char) : trimChars (trimChars cs) = trimChars cs :=
  trimChars_eq_self (fun _ h ↦ not_isBlank_of_head?_trimChars h)
    fun _ h ↦ not_isBlank_of_getLast?_trimChars h

/-- What is trimmed at both ends. -/
theorem exists_trimChars (cs : List Char) :
    ∃ front back, cs = front ++ trimChars cs ++ back ∧ (∀ c ∈ front, isBlank c) ∧
      ∀ c ∈ back, isBlank c := by
  obtain ⟨back, hback, hblank⟩ := exists_trimEndChars (trimStartChars cs)
  refine ⟨cs.takeWhile isBlank, back, ?_, fun c hc ↦ List.mem_takeWhile_imp hc, hblank⟩
  calc
    cs = cs.takeWhile isBlank ++ trimStartChars cs := List.takeWhile_append_dropWhile.symm
    _ = cs.takeWhile isBlank ++ (trimChars cs ++ back) := by rw [trimChars, ← hback]
    _ = cs.takeWhile isBlank ++ trimChars cs ++ back := (List.append_assoc ..).symm

/-- Trimming takes away blanks only. -/
theorem mem_trimChars_iff {c : Char} (hc : ¬ isBlank c) : c ∈ trimChars cs ↔ c ∈ cs := by
  obtain ⟨front, back, heq, hfront, hback⟩ := exists_trimChars cs
  have hnotFront : c ∉ front := fun hmem ↦ hc (hfront c hmem)
  have hnotBack : c ∉ back := fun hmem ↦ hc (hback c hmem)
  conv_rhs => rw [heq]
  simp [hnotFront, hnotBack]

/-- A text without white space at its ends. -/
structure IsTrimmed (text : String) : Prop where
  first : ∀ c ∈ text.toList.head?, ¬ isBlank c
  last : ∀ c ∈ text.toList.getLast?, ¬ isBlank c

theorem toList_trim (text : String) : (trim text).toList = trimChars text.toList := String.toList_ofList

theorem isTrimmed_trim (text : String) : IsTrimmed (trim text) where
  first _ hc := not_isBlank_of_head?_trimChars (toList_trim text ▸ hc)
  last _ hc := not_isBlank_of_getLast?_trimChars (toList_trim text ▸ hc)

theorem IsTrimmed.trim_eq {text : String} (h : IsTrimmed text) : trim text = text := by
  rw [trim, trimChars_eq_self h.first h.last, String.ofList_toList]

theorem isTrimmed_iff {text : String} : IsTrimmed text ↔ trim text = text :=
  ⟨IsTrimmed.trim_eq, fun h ↦ h ▸ isTrimmed_trim text⟩

instance : DecidablePred IsTrimmed := fun _ ↦ decidable_of_iff _ isTrimmed_iff.symm

theorem trim_append {before after : String} (hbefore : ∀ c ∈ before.toList, isBlank c)
    (hafter : ∀ c ∈ after.toList, isBlank c) (text : String) :
    trim (before ++ text ++ after) = trim text := by
  simp only [trim, String.toList_append, trimChars_append_right hafter, trimChars_append_left hbefore]

/-! ## Pieces -/

theorem join_cons (sep piece : List Char) (pieces : List (List Char)) :
    join sep (piece :: pieces) = piece ++ pieces.flatMap (sep ++ ·) := by
  induction pieces generalizing piece with
  | nil => simp [join]
  | cons next rest ih =>
    have htail : join sep (piece :: next :: rest) = piece ++ (sep ++ join sep (next :: rest)) := rfl
    rw [htail, ih, List.flatMap_cons, List.append_assoc]

theorem join_cons_of_ne_nil (sep piece : List Char) (hne : pieces ≠ []) :
    join sep (piece :: pieces) = piece ++ (sep ++ join sep pieces) := by
  cases pieces with
  | nil => exact absurd rfl hne
  | cons next rest => rfl

theorem mem_of_mem_join {c : Char} (h : c ∈ join [sep] pieces) :
    c = sep ∨ ∃ piece ∈ pieces, c ∈ piece := by
  cases pieces with
  | nil => cases h
  | cons piece rest =>
    rw [join_cons] at h
    rcases List.mem_append.1 h with hc | hc
    · exact .inr ⟨piece, List.mem_cons_self, hc⟩
    · obtain ⟨next, hnext, hmem⟩ := List.mem_flatMap.1 hc
      apply (List.mem_cons.1 hmem).imp_right
      exact fun hc ↦ ⟨next, List.mem_cons_of_mem _ hnext, hc⟩

theorem getLast?_flatMap_append (hne : pieces ≠ []) :
    (pieces.flatMap (· ++ [sep])).getLast? = some sep := by
  obtain ⟨front, last, rfl⟩ := (List.eq_nil_or_concat' pieces).resolve_left hne
  simp

/-- The first separator ends the first piece. -/
theorem splitBy_append_cons (ha : sep ∉ a) (b : List Char) :
    splitBy (· == sep) (a ++ sep :: b) = a :: splitBy (· == sep) b := by
  rw [splitBy_append (by simp), splitBy_eq_singleton (forall_not_beq ha), List.singleton_append]

/-- Pieces that each end with a separator are found again, with an empty piece behind the last one. -/
theorem splitBy_flatMap (hpieces : ∀ piece ∈ pieces, sep ∉ piece) :
    splitBy (· == sep) (pieces.flatMap (· ++ [sep])) = pieces ++ [[]] := by
  induction pieces with
  | nil => rfl
  | cons piece pieces ih =>
    obtain ⟨hpiece, hrest⟩ := List.forall_mem_cons.1 hpieces
    rw [List.flatMap_cons, List.append_assoc, List.singleton_append, splitBy_append_cons hpiece,
      ih hrest, List.cons_append]

/-- Pieces with a separator between them are found again. -/
theorem splitBy_join (hne : pieces ≠ []) (hpieces : ∀ piece ∈ pieces, sep ∉ piece) :
    splitBy (· == sep) (join [sep] pieces) = pieces := by
  induction pieces with
  | nil => exact absurd rfl hne
  | cons piece rest ih =>
    obtain ⟨hpiece, hrest⟩ := List.forall_mem_cons.1 hpieces
    cases rest with
    | nil => simpa [join_cons] using splitBy_eq_singleton (forall_not_beq hpiece)
    | cons next rest =>
      have hnext := List.cons_ne_nil next rest
      rw [join_cons_of_ne_nil _ _ hnext, List.singleton_append, splitBy_append_cons hpiece,
        ih hnext hrest]

/-- The pieces that a text is taken apart into have no separator in them. -/
theorem notMem_of_mem_splitBy {piece : List Char} (h : piece ∈ splitBy (· == sep) cs) :
    sep ∉ piece := by
  induction cs generalizing piece with
  | nil => simp_all [splitBy]
  | cons c cs ih =>
    rw [splitBy] at h
    split at h
    · rcases List.mem_cons.1 h with rfl | h
      · exact List.not_mem_nil
      · exact ih h
    · rename_i hc
      have hne : sep ≠ c := fun heq ↦ hc (beq_iff_eq.2 heq.symm)
      cases hsplit : splitBy (· == sep) cs with
      | nil => exact absurd hsplit (splitBy_ne_nil _ cs)
      | cons first rest =>
        simp only [hsplit] at h
        rcases List.mem_cons.1 h with rfl | h
        · have hfirst : sep ∉ first := ih (by simp [hsplit])
          exact List.not_mem_cons_of_ne_of_not_mem hne hfirst
        · exact ih (by simp [hsplit, h])

/-- What stands behind the last separator is the last piece. -/
theorem getLast?_splitBy {p : Char → Bool} (hfront : ∀ c, front.getLast? = some c → p c)
    (hback : ∀ c ∈ back, ¬ p c) : (splitBy p (front ++ back)).getLast? = some back := by
  rcases List.eq_nil_or_concat front with rfl | ⟨rest, c, rfl⟩
  · rw [List.nil_append, splitBy_eq_singleton hback]
    rfl
  · rw [List.concat_eq_append] at hfront ⊢
    have hc : p c := hfront c List.getLast?_concat
    rw [List.append_assoc, List.singleton_append, splitBy_append hc, splitBy_eq_singleton hback,
      List.getLast?_concat]

/-- A text is its pieces with the separators between them. -/
theorem join_splitBy (sep : Char) (cs : List Char) : join [sep] (splitBy (· == sep) cs) = cs := by
  induction cs with
  | nil => rfl
  | cons c cs ih =>
    have hne := splitBy_ne_nil (· == sep) cs
    rw [splitBy]
    split
    · rename_i hc
      rw [join_cons_of_ne_nil _ _ hne, ih, beq_iff_eq.1 hc]
      rfl
    · cases hsplit : splitBy (· == sep) cs with
      | nil => exact absurd hsplit hne
      | cons first rest =>
        rw [hsplit, join_cons] at ih
        rw [join_cons, List.cons_append, ih]

/-- The first character that satisfies `p` is where a text is cut. -/
theorem cutAt?_eq_some_iff {p : Char → Bool} :
    cutAt? p cs = some (a, b) ↔ ∃ c, cs = a ++ c :: b ∧ p c ∧ ∀ d ∈ a, ¬ p d := by
  induction cs generalizing a with
  | nil => simp [cutAt?]
  | cons d cs ih =>
    rw [cutAt?]
    by_cases hd : p d
    · rw [if_pos hd, Option.some_inj, Prod.mk.injEq]
      constructor
      · rintro ⟨rfl, rfl⟩
        exact ⟨d, rfl, hd, by simp⟩
      · rintro ⟨c, heq, -, ha⟩
        cases a with
        | nil =>
          cases heq
          exact ⟨rfl, rfl⟩
        | cons e a =>
          cases heq
          exact absurd hd (ha d List.mem_cons_self)
    · rw [if_neg hd, Option.map_eq_some_iff]
      constructor
      · rintro ⟨⟨a', b'⟩, hcut, heq⟩
        cases heq
        obtain ⟨c, rfl, hc, ha⟩ := ih.1 hcut
        exact ⟨c, rfl, hc, List.forall_mem_cons.2 ⟨hd, ha⟩⟩
      · rintro ⟨c, heq, hc, ha⟩
        cases a with
        | nil =>
          cases heq
          exact absurd hc hd
        | cons e a =>
          cases heq
          exact ⟨(a, b), ih.2 ⟨c, rfl, hc, (List.forall_mem_cons.1 ha).2⟩, rfl⟩

theorem cutAt?_append_cons (ha : sep ∉ a) (b : List Char) :
    cutAt? (· == sep) (a ++ sep :: b) = some (a, b) :=
  cutAt?_eq_some_iff.2 ⟨sep, rfl, BEq.rfl, forall_not_beq ha⟩

theorem cutAt?_eq_none (h : sep ∉ cs) : cutAt? (· == sep) cs = none := by
  induction cs with
  | nil => rfl
  | cons c cs ih =>
    obtain ⟨hc, hcs⟩ := List.ne_and_not_mem_of_not_mem_cons h
    simp [cutAt?, hc.symm, ih hcs]

/-- The last separator is where a text is cut from its end. -/
theorem cutAtLast?_eq_some_iff :
    cutAtLast? (· == sep) cs = some (a, b) ↔ cs = a ++ sep :: b ∧ sep ∉ b := by
  rw [cutAtLast?, Option.map_eq_some_iff]
  constructor
  · rintro ⟨⟨b', a'⟩, hcut, heq⟩
    cases heq
    obtain ⟨c, hreverse, hc, hnot⟩ := cutAt?_eq_some_iff.1 hcut
    have hsep : c = sep := eq_of_beq hc
    subst hsep
    constructor
    · rw [← List.reverse_reverse cs, hreverse]
      simp
    · intro hmem
      exact hnot c (List.mem_reverse.1 hmem) BEq.rfl
  · rintro ⟨rfl, hnot⟩
    refine ⟨(b.reverse, a.reverse), ?_, by simp⟩
    have hreverse : (a ++ sep :: b).reverse = b.reverse ++ sep :: a.reverse := by simp
    rw [hreverse]
    exact cutAt?_append_cons (fun hmem ↦ hnot (List.mem_reverse.1 hmem)) a.reverse

theorem stripSuffix?_append (cs back : List Char) : stripSuffix? back (cs ++ back) = some cs := by
  rw [stripSuffix?, List.reverse_append, stripPrefix?_append, Option.map_some, List.reverse_reverse]

theorem stripSuffix?_eq_none (h : ¬ back <:+ cs) : stripSuffix? back cs = none := by
  rw [stripSuffix?, Option.map_eq_none_iff, Option.eq_none_iff_forall_ne_some]
  intro rest hrest
  exact h (List.reverse_prefix.1 ⟨rest, (stripPrefix?_eq_some hrest).symm⟩)

/-! ## Words -/

/-- A text of at least one character and without blanks. -/
structure IsWord (word : List Char) : Prop where
  ne_nil : word ≠ []
  not_blank : ∀ c ∈ word, ¬ isBlank c

theorem IsWord.trimChars_eq (h : IsWord word) : trimChars word = word :=
  trimChars_eq_self (fun c hc ↦ h.not_blank c (List.mem_of_head? hc))
    fun c hc ↦ h.not_blank c (List.mem_of_getLast? hc)

/-- A word stops the trimming of the blanks in front of it. -/
theorem IsWord.trimStartChars_eq (h : IsWord word) (hfront : ∀ c ∈ front, isBlank c)
    (cs : List Char) : trimStartChars (front ++ (word ++ cs)) = word ++ cs := by
  obtain ⟨c, rest, rfl⟩ := List.exists_cons_of_ne_nil h.ne_nil
  have hc := h.not_blank c List.mem_cons_self
  rw [trimStartChars, List.dropWhile_append_of_pos hfront, List.cons_append,
    List.dropWhile_cons_of_neg hc]

theorem words_nil : words [] = [] := by
  rw [words]
  rfl

theorem words_cons_of_blank {c : Char} (hc : isBlank c) : words (c :: cs) = words cs := by
  rw [words, words, List.dropWhile_cons_of_pos hc]

theorem words_cons_of_not_blank {c : Char} (hc : ¬ isBlank c) :
    words (c :: cs) = (c :: cs.takeWhile (!isBlank ·)) :: words (cs.dropWhile (!isBlank ·)) := by
  rw [words]
  split
  case h_1 hdrop => simp [hc] at hdrop
  case h_2 first rest hdrop =>
    rw [List.dropWhile_cons_of_neg hc] at hdrop
    cases hdrop
    rfl

/-- A word ends where the text ends or a blank follows. -/
theorem IsWord.words_append (h : IsWord word) (hnext : ∀ c, cs.head? = some c → isBlank c) :
    words (word ++ cs) = word :: words cs := by
  cases word with
  | nil => exact absurd rfl h.ne_nil
  | cons c rest =>
    obtain ⟨hc, hrest⟩ := List.forall_mem_cons.1 h.not_blank
    have hinside : ∀ d ∈ rest, !isBlank d := fun d hd ↦ by simpa using hrest d hd
    have hoff : cs.takeWhile (!isBlank ·) = [] ∧ cs.dropWhile (!isBlank ·) = cs := by
      cases cs with
      | nil => exact ⟨rfl, rfl⟩
      | cons d cs => simp [hnext d rfl]
    rw [List.cons_append, words_cons_of_not_blank hc, List.takeWhile_append_of_pos hinside,
      List.dropWhile_append_of_pos hinside, hoff.1, hoff.2, List.append_nil]

theorem head?_flatMap_append_eq {c : Char} (h : (pieces.flatMap ([sep] ++ ·)).head? = some c) :
    c = sep := by
  cases pieces with
  | nil => cases h
  | cons piece rest => exact (Option.some.inj h).symm

/-! Blanks around a text, and how many of them stand between two words, make no difference. -/

theorem words_trimStartChars (cs : List Char) : words (trimStartChars cs) = words cs := by
  induction cs with
  | nil => rfl
  | cons c cs ih =>
    by_cases hc : isBlank c
    · rw [words_cons_of_blank hc, trimStartChars, List.dropWhile_cons_of_pos hc]
      exact ih
    · rw [trimStartChars, List.dropWhile_cons_of_neg hc]

theorem words_eq_nil (hblank : ∀ c ∈ cs, isBlank c) : words cs = [] := by
  have hnone : trimStartChars cs = [] := List.dropWhile_eq_nil_iff.2 hblank
  rw [← words_trimStartChars, hnone, words_nil]

/-- The blanks in front of a text are all of it, or are followed by a word. -/
theorem blank_or_exists_word (cs : List Char) :
    (∀ c ∈ cs, isBlank c) ∨ ∃ word rest, IsWord word ∧ trimStartChars cs = word ++ rest ∧
      ∀ c, rest.head? = some c → isBlank c := by
  cases hstart : trimStartChars cs with
  | nil => exact .inl (List.dropWhile_eq_nil_iff.1 hstart)
  | cons c rest =>
    have hhead : (trimStartChars cs).head? = some c := by rw [hstart, List.head?_cons]
    have hc : ¬ isBlank c := not_isBlank_of_head? hhead
    have hinside : ∀ d ∈ rest.takeWhile (!isBlank ·), ¬ isBlank d := fun d hd ↦ by
      simpa using List.mem_takeWhile_imp hd
    refine .inr ⟨c :: rest.takeWhile (!isBlank ·), rest.dropWhile (!isBlank ·),
      ⟨List.cons_ne_nil _ _, List.forall_mem_cons.2 ⟨hc, hinside⟩⟩, ?_, fun d hd ↦ ?_⟩
    · rw [List.cons_append, List.takeWhile_append_dropWhile]
    · have hstop := List.head?_dropWhile_not (!isBlank ·) rest
      rw [hd] at hstop
      simpa using hstop

/-- The first word and the words behind it. -/
theorem words_eq_cons_iff {ws : List (List Char)} :
    words cs = word :: ws ↔ IsWord word ∧ ∃ rest, trimStartChars cs = word ++ rest ∧
      (∀ c, rest.head? = some c → isBlank c) ∧ words rest = ws := by
  constructor
  · intro h
    rcases blank_or_exists_word cs with hblank | ⟨word', rest, hword, hstart, hnext⟩
    · rw [words_eq_nil hblank] at h
      cases h
    · rw [← words_trimStartChars, hstart, hword.words_append hnext] at h
      cases h
      exact ⟨hword, rest, hstart, hnext, rfl⟩
  · rintro ⟨hword, rest, hstart, hnext, rfl⟩
    rw [← words_trimStartChars, hstart, hword.words_append hnext]

/-- A blank is in no word. -/
theorem words_append_cons {c : Char} (hc : isBlank c) (a b : List Char) :
    words (a ++ c :: b) = words a ++ words b := by
  rcases blank_or_exists_word a with hblank | ⟨word, rest, hword, hstart, hnext⟩
  · have hskip : trimStartChars (a ++ c :: b) = trimStartChars (c :: b) :=
      List.dropWhile_append_of_pos hblank
    calc
      words (a ++ c :: b) = words (c :: b) := by
        rw [← words_trimStartChars, hskip, words_trimStartChars]
      _ = words a ++ words b := by rw [words_cons_of_blank hc, words_eq_nil hblank, List.nil_append]
  · have hshorter : rest.length < a.length := by
      have hlength := length_dropWhile_le isBlank a
      rw [← trimStartChars, hstart, List.length_append] at hlength
      have hpos := List.length_pos_iff.2 hword.ne_nil
      omega
    have hwhole : trimStartChars (a ++ c :: b) = word ++ (rest ++ c :: b) := by
      have hne : ¬ (a.dropWhile isBlank).isEmpty := by
        rw [← trimStartChars, hstart, List.isEmpty_iff]
        exact List.append_ne_nil_of_left_ne_nil hword.ne_nil rest
      rw [trimStartChars, List.dropWhile_append, if_neg hne, ← trimStartChars, hstart,
        List.append_assoc]
    have hnext' : ∀ d, (rest ++ c :: b).head? = some d → isBlank d := by
      cases rest with
      | nil =>
        rintro d ⟨⟩
        exact hc
      | cons d rest => exact hnext
    calc
      words (a ++ c :: b) = word :: words (rest ++ c :: b) := by
        rw [← words_trimStartChars, hwhole, hword.words_append hnext']
      _ = word :: (words rest ++ words b) := by rw [words_append_cons hc rest b]
      _ = words a ++ words b := by
        rw [← words_trimStartChars a, hstart, hword.words_append hnext, List.cons_append]
termination_by a.length

theorem words_append_right (hback : ∀ c ∈ back, isBlank c) : words (cs ++ back) = words cs := by
  cases back with
  | nil => rw [List.append_nil]
  | cons c back =>
    obtain ⟨hc, hback⟩ := List.forall_mem_cons.1 hback
    rw [words_append_cons hc, words_eq_nil hback, List.append_nil]

theorem words_trimChars (cs : List Char) : words (trimChars cs) = words cs := by
  obtain ⟨back, hback, hblank⟩ := exists_trimEndChars (trimStartChars cs)
  calc
    words (trimChars cs) = words (trimEndChars (trimStartChars cs) ++ back) :=
      (words_append_right hblank).symm
    _ = words (trimStartChars cs) := by rw [← hback]
    _ = _ := words_trimStartChars cs

/-- Words with a blank in front of each are found again. -/
theorem words_flatMap (hsep : isBlank sep) (hwords : ∀ word ∈ pieces, IsWord word) :
    words (pieces.flatMap ([sep] ++ ·)) = pieces := by
  induction pieces with
  | nil => exact words_nil
  | cons word rest ih =>
    obtain ⟨hword, hrest⟩ := List.forall_mem_cons.1 hwords
    rw [List.flatMap_cons, List.append_assoc, List.singleton_append, words_cons_of_blank hsep,
      hword.words_append fun c hc ↦ head?_flatMap_append_eq hc ▸ hsep, ih hrest]

/-- Words with a blank between them are found again. -/
theorem words_join (hsep : isBlank sep) (hwords : ∀ word ∈ pieces, IsWord word) :
    words (join [sep] pieces) = pieces := by
  cases pieces with
  | nil => exact words_nil
  | cons word rest =>
    obtain ⟨hword, hrest⟩ := List.forall_mem_cons.1 hwords
    rw [join_cons, hword.words_append fun c hc ↦ head?_flatMap_append_eq hc ▸ hsep,
      words_flatMap hsep hrest]

end ReleaseAudit.Text
