import ReleaseAudit.Token.Scan

/-!
# Lexemes

A token that stands in front of a text is read from its own characters: it is the same when nothing
follows them, and when the text is continued behind a blank.
-/

namespace ReleaseAudit

namespace Reading

variable {c quote : Char} {cs rest k s text : List Char} {t : Token} {n : Nat} {point mark : Bool}

/-- The white space of the expression language. -/
def blanks : List Char := [' ', '\t', '\r', '\n']

theorem forall_blanks {p : Char → Prop} :
    (∀ b ∈ blanks, p b) ↔ p ' ' ∧ p '\t' ∧ p '\r' ∧ p '\n' := by
  simp [blanks]

/-- The text is empty or begins with a blank. -/
def Ends (k : List Char) : Prop := ∀ b ∈ k.head?, b ∈ blanks

theorem ends_nil : Ends [] := by simp [Ends]

theorem ends_cons (hc : c ∈ blanks) : Ends (c :: k) := by simpa [Ends] using hc

theorem Ends.not (h : Ends k) {p : Char → Bool} (hp : ∀ b ∈ blanks, p b = false) :
    k.head?.any p = false := by
  cases k with
  | nil => rfl
  | cons b k => exact hp b (h b rfl)

/-! ## String literals -/

theorem stringBody?_cons (hc : c ≠ '\\') :
    stringBody? quote (c :: cs) =
      if c == quote then some ([], 1)
      else (stringBody? quote cs).map fun (s, n) ↦ (c :: s, n + 1) := by
  rw [stringBody?]
  · exact fun h _ ↦ hc h
  · exact fun _ _ h _ ↦ hc h

/-- The body ends at its closing quote, whatever follows. -/
theorem exists_of_stringBody? (h : stringBody? quote cs = some (s, n)) :
    ∃ w k, cs = w ++ k ∧ w.length = n ∧ ∀ k, stringBody? quote (w ++ k) = some (s, n) := by
  fun_induction stringBody? quote cs generalizing s n with
  | case1 => cases h
  | case2 => cases h
  | case3 c cs ih =>
    obtain ⟨⟨s', n'⟩, hrest, heq⟩ := Option.map_eq_some_iff.1 h
    cases heq
    obtain ⟨w, k, rfl, rfl, hw⟩ := ih hrest
    refine ⟨'\\' :: c :: w, k, rfl, rfl, fun k ↦ ?_⟩
    simp [stringBody?, hw k]
  | case4 c cs hlone hescape hc =>
    cases h
    have hslash : c ≠ '\\' := by
      rintro rfl
      cases cs with
      | nil => exact hlone rfl rfl
      | cons d ds => exact hescape d ds rfl rfl
    refine ⟨[c], cs, rfl, rfl, fun k ↦ ?_⟩
    rw [List.singleton_append, stringBody?_cons hslash, if_pos hc]
  | case5 c cs hlone hescape hc ih =>
    obtain ⟨⟨s', n'⟩, hrest, heq⟩ := Option.map_eq_some_iff.1 h
    cases heq
    have hslash : c ≠ '\\' := by
      rintro rfl
      cases cs with
      | nil => exact hlone rfl rfl
      | cons d ds => exact hescape d ds rfl rfl
    obtain ⟨w, k, rfl, rfl, hw⟩ := ih hrest
    refine ⟨c :: w, k, rfl, rfl, fun k ↦ ?_⟩
    rw [List.cons_append, stringBody?_cons hslash, if_neg hc, hw k]
    rfl

/-! ## Numerals -/

theorem numeral_digit (hc : c.isDigit) (cs : List Char) :
    numeral point mark (c :: cs) =
      (c :: (numeral point mark cs).1, (numeral point mark cs).2 + 1) := by
  rw [numeral.eq_def]
  simp only [hc, if_true]

theorem numeral_underscore (cs : List Char) :
    numeral point mark ('_' :: cs) =
      ((numeral point mark cs).1, (numeral point mark cs).2 + 1) := by
  rw [numeral.eq_def]
  rfl

theorem numeral_point (hdigit : cs.head?.any Char.isDigit) :
    numeral false mark ('.' :: cs) =
      ('.' :: (numeral true mark cs).1, (numeral true mark cs).2 + 1) := by
  rw [numeral.eq_def]
  simp [hdigit]

theorem numeral_sign (hc : c = 'e' ∨ c = 'E') {d : Char} (hd : d = '+' ∨ d = '-') (cs : List Char) :
    numeral point false (c :: d :: cs) =
      ('e' :: d :: (numeral point true cs).1, (numeral point true cs).2 + 2) := by
  rw [numeral.eq_def]
  rcases hc with rfl | rfl <;> rcases hd with rfl | rfl <;> simp

theorem numeral_mark (hc : c = 'e' ∨ c = 'E') (hcs : ∀ d ∈ cs.head?, d ≠ '+' ∧ d ≠ '-') :
    numeral point false (c :: cs) =
      ('e' :: (numeral point true cs).1, (numeral point true cs).2 + 1) := by
  rw [numeral.eq_def]
  cases cs with
  | nil => rcases hc with rfl | rfl <;> rfl
  | cons d ds =>
    have hd := hcs d rfl
    rcases hc with rfl | rfl <;> simp [hd]

theorem point_of_cond (h : (c == '.' && !point && cs.head?.any Char.isDigit) = true) :
    c = '.' ∧ point = false ∧ cs.head?.any Char.isDigit = true := by
  simpa [and_assoc] using h

theorem mark_of_cond (h : ((c == 'e' || c == 'E') && !mark) = true) :
    (c = 'e' ∨ c = 'E') ∧ mark = false := by
  simpa using h

theorem numeral_stop (hdigit : ¬ c.isDigit) (hunderscore : c ≠ '_')
    (hpoint : c = '.' → point = false → cs.head?.any Char.isDigit = false)
    (hmark : c = 'e' ∨ c = 'E' → mark = true) : numeral point mark (c :: cs) = ([], 0) := by
  have hpoint' : ¬ (c == '.' && !point && cs.head?.any Char.isDigit) = true := by
    intro h
    obtain ⟨hc, hfree, hany⟩ := point_of_cond h
    simp [hpoint hc hfree] at hany
  have hmark' : ¬ ((c == 'e' || c == 'E') && !mark) = true := by
    intro h
    obtain ⟨hc, hfree⟩ := mark_of_cond h
    simp [hmark hc] at hfree
  rw [numeral.eq_def]
  simp only [hdigit, beq_iff_eq, hunderscore, hpoint', hmark', Bool.false_eq_true, if_false]

theorem numeral_ends (hk : Ends k) : numeral point mark k = ([], 0) := by
  cases k with
  | nil => rfl
  | cons b k =>
    have hb : ∀ b ∈ blanks, ¬ b.isDigit ∧ b ≠ '_' ∧ b ≠ '.' ∧ ¬ (b = 'e' ∨ b = 'E') :=
      forall_blanks.2 (by decide)
    obtain ⟨hdigit, hunderscore, hpoint, hmark⟩ := hb b (hk b rfl)
    exact numeral_stop hdigit hunderscore (absurd · hpoint) (absurd · hmark)

theorem numeral_append (hk : Ends k) : numeral point mark (cs ++ k) = numeral point mark cs := by
  fun_induction numeral point mark cs with
  | case1 => exact numeral_ends hk
  | case2 point mark c cs hdigit text n heq ih =>
    rw [List.cons_append, numeral_digit hdigit, ih, heq]
  | case3 point mark c cs _ hunderscore text n heq ih =>
    obtain rfl := eq_of_beq hunderscore
    rw [List.cons_append, numeral_underscore, ih, heq]
  | case4 point mark c cs _ _ hpoint text n heq ih =>
    obtain ⟨rfl, rfl, hany⟩ := point_of_cond hpoint
    have hany' : (cs ++ k).head?.any Char.isDigit := by
      cases cs with
      | nil => cases hany
      | cons d ds => exact hany
    rw [List.cons_append, numeral_point hany', ih, heq]
  | case5 point mark c _ _ hmark _ =>
    obtain ⟨hc, rfl⟩ := mark_of_cond hmark
    have hsign : ∀ b ∈ blanks, b ≠ '+' ∧ b ≠ '-' := forall_blanks.2 (by decide)
    rw [List.singleton_append, numeral_mark hc fun d hd ↦ hsign d (hk d hd), numeral_ends hk]
  | case6 point mark c _ _ hmark d ds hsign text n heq _ ih =>
    obtain ⟨hc, rfl⟩ := mark_of_cond hmark
    have hd : d = '+' ∨ d = '-' := by simpa using hsign
    rw [List.cons_append, List.cons_append, numeral_sign hc hd, ih, heq]
  | case7 point mark c _ _ hmark d ds hsign text n heq _ ih =>
    obtain ⟨hc, rfl⟩ := mark_of_cond hmark
    have hd : d ≠ '+' ∧ d ≠ '-' := by simpa using hsign
    rw [List.cons_append, numeral_mark hc, ih, heq]
    simpa using hd
  | case8 point mark c cs hdigit hunderscore hpoint hmark =>
    refine numeral_stop hdigit (by simpa using hunderscore) (fun hc hfree ↦ ?_) fun hc ↦ ?_
    · subst hc hfree
      cases cs with
      | nil => exact hk.not (forall_blanks.2 (by decide))
      | cons d ds => simpa using hpoint
    · simpa [hc] using hmark

/-- The numeral in front of a text, on its own. -/
theorem exists_of_numeral (h : numeral point mark cs = (text, n)) :
    ∃ w k, cs = w ++ k ∧ w.length = n ∧ numeral point mark w = (text, n) := by
  fun_induction numeral point mark cs generalizing text n with
  | case1 =>
    cases h
    exact ⟨[], [], rfl, rfl, rfl⟩
  | case2 point mark c cs hdigit text n heq ih =>
    cases h
    obtain ⟨w, k, rfl, hlength, hw⟩ := ih heq
    refine ⟨c :: w, k, rfl, congrArg (· + 1) hlength, ?_⟩
    rw [numeral_digit hdigit, hw]
  | case3 point mark c cs _ hunderscore text n heq ih =>
    cases h
    obtain rfl := eq_of_beq hunderscore
    obtain ⟨w, k, rfl, hlength, hw⟩ := ih heq
    refine ⟨'_' :: w, k, rfl, congrArg (· + 1) hlength, ?_⟩
    rw [numeral_underscore, hw]
  | case4 point mark c cs _ _ hpoint text n heq ih =>
    cases h
    obtain ⟨rfl, rfl, hany⟩ := point_of_cond hpoint
    obtain ⟨w, k, rfl, hlength, hw⟩ := ih heq
    have hany' : w.head?.any Char.isDigit := by
      cases w with
      | cons d w => exact hany
      | nil =>
        obtain ⟨d, ds, rfl⟩ := List.exists_cons_of_ne_nil (l := k) (by rintro rfl; cases hany)
        rw [List.nil_append, numeral_digit hany] at heq
        cases heq
        cases hlength
    refine ⟨'.' :: w, k, rfl, congrArg (· + 1) hlength, ?_⟩
    rw [numeral_point hany', hw]
  | case5 point mark c _ _ hmark _ =>
    cases h
    obtain ⟨hc, rfl⟩ := mark_of_cond hmark
    exact ⟨[c], [], rfl, rfl, numeral_mark hc (by simp)⟩
  | case6 point mark c _ _ hmark d ds hsign text n heq _ ih =>
    cases h
    obtain ⟨hc, rfl⟩ := mark_of_cond hmark
    have hd : d = '+' ∨ d = '-' := by simpa using hsign
    obtain ⟨w, k, rfl, hlength, hw⟩ := ih heq
    refine ⟨c :: d :: w, k, rfl, congrArg (· + 2) hlength, ?_⟩
    rw [numeral_sign hc hd, hw]
  | case7 point mark c _ _ hmark d ds hsign text n heq _ ih =>
    cases h
    obtain ⟨hc, rfl⟩ := mark_of_cond hmark
    have hd : d ≠ '+' ∧ d ≠ '-' := by simpa using hsign
    obtain ⟨w, k, hcs, hlength, hw⟩ := ih heq
    have hw' : ∀ d ∈ w.head?, d ≠ '+' ∧ d ≠ '-' := by
      cases w with
      | nil => simp
      | cons d' w =>
        cases hcs
        simpa using hd
    refine ⟨c :: w, k, congrArg (c :: ·) hcs, congrArg (· + 1) hlength, ?_⟩
    rw [numeral_mark hc hw', hw]
  | case8 point mark c cs hdigit hunderscore hpoint hmark =>
    cases h
    exact ⟨[], c :: cs, rfl, rfl, by rw [numeral]⟩

/-! ## Number literals and words -/

/-- A number may not run into a word. -/
def runsOn (c : Char) : Bool := Text.isAlphabetic c || c == '_'

theorem filter_runsOn (o : Option Char) : o.filter runsOn = none ↔ o.any runsOn = false := by
  cases o <;> simp

theorem numberLiteral_eq_token_iff :
    numberLiteral cs = .token t n ↔
      ∃ text x, numeral false false cs = (text, n) ∧ (cs.drop n).head?.any runsOn = false ∧
        Decimal.read? text = some x ∧ t = .number x := by
  unfold numberLiteral
  constructor
  · intro h
    dsimp only at h
    split at h
    case h_1 => cases h
    case h_2 hfree =>
      split at h
      case h_2 => cases h
      case h_1 x hx =>
        cases h
        exact ⟨_, x, rfl, (filter_runsOn _).1 hfree, hx, rfl⟩
  · rintro ⟨text, x, hnumeral, hafter, hx, rfl⟩
    have hfree := (filter_runsOn _).2 hafter
    unfold runsOn at hfree
    simp only [hnumeral, hfree, hx]

/-! ## What the first character tells -/

theorem of_blank (hc : c ∈ blanks) (rest : List Char) : of c rest = gap 1 := by
  simp only [blanks, List.mem_cons, List.not_mem_nil, or_false] at hc
  rcases hc with rfl | rfl | rfl | rfl <;> rfl

theorem of_quote (hc : c = '"' ∨ c = '\'') (rest : List Char) :
    of c rest = stringLiteral c rest := by
  rcases hc with rfl | rfl <;> rfl

/-- The characters that neither begin a word nor a number. -/
theorem single?_eq_none (hc : c.isDigit ∨ isNameStart c) : single? c = none := by
  unfold single?
  split
  case h_15 => rfl
  all_goals exact absurd hc (by decide)

theorem of_digit (hc : c.isDigit) (rest : List Char) : of c rest = numberLiteral (c :: rest) := by
  unfold of
  split
  case h_15 => rw [single?_eq_none (.inl hc), if_pos hc]
  all_goals exact absurd hc (by decide)

/-- The letters begin behind the digits. -/
theorem not_isDigit_of_isNameStart (hc : isNameStart c) : ¬ c.isDigit := by
  intro hdigit
  have hlast : c.toNat ≤ 57 := by
    simp only [Char.isDigit, Bool.and_eq_true, decide_eq_true_eq] at hdigit
    exact UInt32.le_iff_toNat_le.1 hdigit.2
  have halphabetic : Text.isAlphabetic c = false := by
    change Text.CharRanges.holds ((0x41, 0x5a) :: Text.alphabeticRanges.tail) c.toNat = false
    have hbelow : ¬ 0x41 ≤ c.toNat := by omega
    simp [Text.CharRanges.holds, hbelow]
  simp only [isNameStart, halphabetic, Bool.false_or, Bool.or_eq_true, beq_iff_eq] at hc
  rcases hc with rfl | rfl <;> cases hdigit

theorem of_nameStart (hc : isNameStart c) (rest : List Char) : of c rest = word (c :: rest) := by
  unfold of
  split
  case h_15 =>
    rw [single?_eq_none (.inr hc)]
    simp only [not_isDigit_of_isNameStart hc, hc, if_true, if_false, Bool.false_eq_true]
  all_goals exact absurd hc (by decide)

theorem of_single {t : Token} (h : single? c = some t) (rest : List Char) :
    of c rest = .token t 1 := by
  unfold single? at h
  split at h
  case h_15 => cases h
  all_goals
    cases h
    rfl

/-! ## Lexemes -/

/-- The token that `c :: rest` begins with is read from `n` characters. -/
structure Lexeme (c : Char) (rest : List Char) (t : Token) (n : Nat) : Prop where
  /-- On its own it is read as well. -/
  alone : ∃ w k, rest = w ++ k ∧ n = w.length + 1 ∧ of c w = .token t n
  /-- A blank behind the text does not change it. -/
  ended : ∀ k, Ends k → of c (rest ++ k) = .token t n

theorem lexeme_string (hc : c = '"' ∨ c = '\'') (h : stringLiteral c rest = .token t n) :
    Lexeme c rest t n := by
  unfold stringLiteral at h
  split at h
  case h_2 => cases h
  case h_1 s m hbody =>
    cases h
    obtain ⟨w, k, rfl, rfl, hw⟩ := exists_of_stringBody? hbody
    constructor
    · refine ⟨w, k, rfl, rfl, ?_⟩
      have halone := hw []
      rw [List.append_nil] at halone
      rw [of_quote hc, stringLiteral, halone]
    · intro k' _
      rw [of_quote hc, stringLiteral, List.append_assoc, hw]

theorem lexeme_number (hc : c.isDigit) (h : numberLiteral (c :: rest) = .token t n) :
    Lexeme c rest t n := by
  obtain ⟨text, x, hnumeral, hafter, hx, rfl⟩ := numberLiteral_eq_token_iff.1 h
  obtain ⟨w, k, hcs, hlength, hw⟩ := exists_of_numeral hnumeral
  constructor
  · cases w with
    | nil =>
      rw [numeral_digit hc] at hnumeral
      cases hnumeral
      cases hlength
    | cons d w =>
      cases hcs
      refine ⟨w, k, rfl, hlength.symm, ?_⟩
      rw [of_digit hc, numberLiteral_eq_token_iff]
      refine ⟨text, x, hw, ?_, hx, rfl⟩
      rw [← hlength, List.drop_length]
      rfl
  · intro k' hk'
    rw [of_digit hc, ← List.cons_append, numberLiteral_eq_token_iff]
    refine ⟨text, x, (numeral_append hk').trans hnumeral, ?_, hx, rfl⟩
    subst hlength
    rw [hcs, List.drop_left] at hafter
    rw [hcs, List.append_assoc, List.drop_left]
    cases k with
    | nil => exact hk'.not (forall_blanks.2 (by decide))
    | cons d k => exact hafter

theorem isNamePart_of_isNameStart (hc : isNameStart c) : isNamePart c := by
  simp only [isNameStart, isNamePart, Text.isAlphanumeric, Bool.or_eq_true] at hc ⊢
  rcases hc with (hletter | hunderscore) | hdollar
  · exact .inl (.inl (.inl hletter))
  · exact .inl (.inr hunderscore)
  · exact .inr hdollar

/-- A run of characters ends where the text does and in front of a blank. -/
theorem takeWhile_append_ends {p : Char → Bool} (hp : ∀ b ∈ blanks, p b = false) (hk : Ends k)
    (cs : List Char) : (cs ++ k).takeWhile p = cs.takeWhile p := by
  induction cs with
  | nil =>
    cases k with
    | nil => rfl
    | cons b k => exact List.takeWhile_cons_of_neg (by simpa using hp b (hk b rfl))
  | cons c cs ih =>
    rw [List.cons_append, List.takeWhile_cons, List.takeWhile_cons, ih]

theorem takeWhile_takeWhile (p : Char → Bool) (cs : List Char) :
    (cs.takeWhile p).takeWhile p = cs.takeWhile p := by
  induction cs with
  | nil => rfl
  | cons c cs ih => cases hc : p c <;> simp [hc, ih]

theorem lexeme_word (hc : isNameStart c) (h : word (c :: rest) = .token t n) :
    Lexeme c rest t n := by
  have hpart := isNamePart_of_isNameStart hc
  unfold word at h
  rw [List.takeWhile_cons_of_pos hpart] at h
  cases h
  constructor
  · refine ⟨rest.takeWhile isNamePart, rest.dropWhile isNamePart,
      List.takeWhile_append_dropWhile.symm, rfl, ?_⟩
    rw [of_nameStart hc, word, List.takeWhile_cons_of_pos hpart, takeWhile_takeWhile]
  · intro k hk
    rw [of_nameStart hc, word, List.takeWhile_cons_of_pos hpart,
      takeWhile_append_ends (forall_blanks.2 (by decide)) hk]

/-- An operator is told by its first character and the one behind it. -/
theorem lexeme_sign {f : Option Char → Reading}
    (hof : ∀ rest t n, of c rest = .token t n ↔ f rest.head? = .token t n)
    (hf : ∀ d t n, f d = .token t n →
      n = 1 ∧ (∀ b, (∀ c ∈ b, c ∈ blanks) → f b = .token t 1) ∨ n = 2 ∧ d.isSome)
    (h : of c rest = .token t n) : Lexeme c rest t n := by
  have hhead := (hof rest t n).1 h
  rcases hf _ _ _ hhead with ⟨rfl, hblank⟩ | ⟨rfl, hd⟩
  · constructor
    · exact ⟨[], rest, rfl, rfl, (hof _ _ _).2 (hblank _ ends_nil)⟩
    · intro k hk
      refine (hof _ _ _).2 ?_
      cases rest with
      | nil => exact hblank _ hk
      | cons d rest => exact hhead
  · obtain ⟨d, rest, rfl⟩ := List.exists_cons_of_ne_nil (l := rest) (by rintro rfl; cases hd)
    constructor
    · exact ⟨[d], rest, rfl, rfl, (hof _ _ _).2 hhead⟩
    · intro k _
      exact (hof _ _ _).2 hhead

theorem lexeme_oneOrTwo {one two : Token} {second : Char} (hsecond : second ∉ blanks)
    (hof : ∀ rest, of c rest = oneOrTwo one second two rest) (h : of c rest = .token t n) :
    Lexeme c rest t n := by
  refine lexeme_sign (f := fun d ↦ if d == some second then token two 2 else token one 1)
    (fun rest t n ↦ by rw [hof]; rfl) (fun d t n hd ↦ ?_) h
  split at hd
  case isTrue hsome =>
    cases hd
    exact .inr ⟨rfl, by simp [eq_of_beq hsome]⟩
  case isFalse =>
    cases hd
    refine .inl ⟨rfl, fun b hb ↦ if_neg ?_⟩
    rw [beq_iff_eq]
    exact fun heq ↦ hsecond (hb second heq)

theorem lexeme_twice {two : Token} (hof : ∀ rest, of c rest = twice c two rest)
    (h : of c rest = .token t n) : Lexeme c rest t n := by
  refine lexeme_sign
    (f := fun d ↦ if d == some c then token two 2 else incomplete (String.ofList [c, c]))
    (fun rest t n ↦ by rw [hof]; rfl) (fun d t n hd ↦ ?_) h
  split at hd
  case isTrue hsome =>
    cases hd
    exact .inr ⟨rfl, by simp [eq_of_beq hsome]⟩
  case isFalse => cases hd

theorem lexeme_equals (h : of '=' rest = .token t n) : Lexeme '=' rest t n := by
  refine lexeme_sign
    (f := fun d ↦ if d == some '=' then token .eq 2 else if d == some '>' then token .arrow 2
      else incomplete "==")
    (fun rest t n ↦ .rfl) (fun d t n hd ↦ .inr ?_) h
  split at hd
  case isTrue hsome =>
    cases hd
    exact ⟨rfl, by simp [eq_of_beq hsome]⟩
  case isFalse =>
    split at hd
    case isTrue hsome =>
      cases hd
      exact ⟨rfl, by simp [eq_of_beq hsome]⟩
    case isFalse => cases hd

theorem lexeme_slash (h : of '/' rest = .token t n) : Lexeme '/' rest t n := by
  refine lexeme_sign (f := fun d ↦ if d == some '/' then stray else token .slash 1)
    (fun rest t n ↦ ?_) (fun d t n hd ↦ ?_) h
  · change (if rest.head? == some '/' then comment ('/' :: rest) else token .slash 1) = _ ↔ _
    split
    · simp [comment]
    · rfl
  · split at hd
    case isTrue => cases hd
    case isFalse =>
      cases hd
      refine .inl ⟨rfl, fun b hb ↦ if_neg ?_⟩
      rw [beq_iff_eq]
      exact fun heq ↦ absurd (hb '/' heq) (by decide)

theorem lexeme_single {one : Token} (hc : single? c = some one) (h : of c rest = .token t n) :
    Lexeme c rest t n := by
  refine lexeme_sign (f := fun _ ↦ token one 1) (fun rest t n ↦ by rw [of_single hc]) ?_ h
  intro d t n hd
  cases hd
  exact .inl ⟨rfl, fun _ _ ↦ rfl⟩

theorem lexeme_of_token (h : of c rest = .token t n) : Lexeme c rest t n := by
  have hof := h
  unfold of at hof
  split at hof
  case h_1 | h_2 | h_3 | h_4 | h_5 => cases hof
  case h_6 => exact lexeme_string (.inl rfl) hof
  case h_7 => exact lexeme_string (.inr rfl) hof
  case h_8 => exact lexeme_equals h
  case h_9 | h_10 | h_11 => exact lexeme_oneOrTwo (by decide) (fun _ ↦ rfl) h
  case h_12 | h_13 => exact lexeme_twice (fun _ ↦ rfl) h
  case h_14 => exact lexeme_slash h
  case h_15 =>
    split at hof
    case h_1 one hone => exact lexeme_single hone h
    case h_2 =>
      split at hof
      case isTrue hdigit => exact lexeme_number hdigit hof
      case isFalse =>
        split at hof
        case isTrue hstart => exact lexeme_word hstart hof
        case isFalse => cases hof

theorem token_alone {w : List Char} (h : of c (w ++ k) = .token t (w.length + 1)) :
    of c w = .token t (w.length + 1) := by
  obtain ⟨v, k', hrest, hlength, halone⟩ := (lexeme_of_token h).alone
  have hsplit : w = v ∧ k = k' := List.append_inj hrest (Nat.succ_inj.1 hlength)
  rwa [← hsplit.1] at halone

theorem token_append (h : of c rest = .token t n) (hk : Ends k) : of c (rest ++ k) = .token t n :=
  (lexeme_of_token h).ended k hk

end Reading

end ReleaseAudit
