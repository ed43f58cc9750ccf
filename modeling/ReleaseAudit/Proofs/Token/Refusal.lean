import ReleaseAudit.Proofs.Token.Place
import ReleaseAudit.Proofs.Token.Tiling

/-!
# What a scan error covers

The span of an error covers what the scanner has gone over: one character, or a literal that is begun and
not brought to its end. Only a character that begins no token is taken for one byte, whatever it takes, so
that the span of the error about it may end inside the character. Every other span can be cut out of the
text.
-/

namespace ReleaseAudit

namespace Reading

variable {c quote : Char} {rest cs : List Char} {n : Nat}

/-! ## Literals without an end -/

/-- The number of characters of a literal that is begun and not brought to its end. -/
def unfinished? : Reading → Option Nat
  | unterminatedString n | malformedNumber _ n => some n
  | gap _ | token _ _ | incomplete _ | stray => none

/-- A string literal that is not closed goes on to the end of the text. -/
theorem length_of_stringLiteral (h : (stringLiteral quote rest).unfinished? = some n) :
    n = rest.length + 1 := by
  unfold stringLiteral at h
  split at h
  case h_1 => cases h
  case h_2 =>
    cases h
    rfl

theorem numeral_of_numberLiteral (h : (numberLiteral cs).unfinished? = some n) :
    (numeral false false cs).2 = n := by
  unfold numberLiteral at h
  dsimp only at h
  split at h
  case h_1 => exact Option.some_inj.1 h
  case h_2 =>
    split at h
    case h_1 => cases h
    case h_2 => exact Option.some_inj.1 h

theorem exists_of_numberLiteral (hc : c.isDigit)
    (h : (numberLiteral (c :: rest)).unfinished? = some n) :
    ∃ w k, rest = w ++ k ∧ n = w.length + 1 := by
  have hsize : (numeral false false rest).2 + 1 = n := by
    rw [← numeral_of_numberLiteral h, numeral_digit hc]
  obtain ⟨w, k, hrest, hlength, -⟩ := exists_of_numeral (Prod.eta (numeral false false rest)).symm
  exact ⟨w, k, hrest, by rw [← hsize, hlength]⟩

theorem exists_of_unfinished (h : (of c rest).unfinished? = some n) :
    ∃ w k, rest = w ++ k ∧ n = w.length + 1 := by
  unfold of at h
  split at h
  case h_1 | h_2 | h_3 | h_4 | h_5 => cases h
  case h_6 | h_7 =>
    exact ⟨rest, [], (List.append_nil rest).symm, length_of_stringLiteral h⟩
  case h_8 =>
    split at h
    case isTrue => cases h
    case isFalse => split at h <;> cases h
  case h_9 | h_10 | h_11 =>
    unfold oneOrTwo at h
    split at h <;> cases h
  case h_12 | h_13 =>
    unfold twice at h
    split at h <;> cases h
  case h_14 => split at h <;> cases h
  case h_15 =>
    split at h
    case h_1 => cases h
    case h_2 =>
      split at h
      case isTrue hdigit => exact exists_of_numberLiteral hdigit h
      case isFalse => split at h <;> cases h

end Reading

/-! ## The span of an error -/

variable {p : Position} {c : Char} {rest before after : List Char} {e : ScanError} {source : String}

theorem exists_take_of_unfinished {n : Nat} (h : (Reading.of c rest).unfinished? = some n) :
    ∃ w k, rest = w ++ k ∧ (c :: rest).take n = c :: w := by
  obtain ⟨w, k, rfl, rfl⟩ := Reading.exists_of_unfinished h
  exact ⟨w, k, rfl, by rw [List.take_succ_cons, List.take_left]⟩

/-- An error is about a character that begins no token, or its span covers `c :: w`. -/
theorem Refuses.stray_or_between (h : Refuses p c rest e) :
    e = .stray c (.firstByte p) ∨
    (∀ d s, e ≠ .stray d s) ∧
      ∃ w k, rest = w ++ k ∧ e.span = .between p (p.advanceAll (c :: w)) := by
  cases h with
  | stray => exact .inl rfl
  | incomplete => exact .inr ⟨nofun, [], rest, rfl, rfl⟩
  | unterminatedString hof | malformedNumber hof =>
    obtain ⟨w, k, hrest, htake⟩ := exists_take_of_unfinished (by rw [hof]; rfl)
    refine .inr ⟨nofun, w, k, hrest, ?_⟩
    rw [← htake]
    rfl

theorem byteSize_of_append (h : source.toList = before ++ after) :
    source.utf8ByteSize = Text.byteSize before + Text.byteSize after := by
  rw [← Text.byteSize_toList, h, Text.byteSize_append]

/-- The byte behind the first one of a character is the end of it or stands inside of it. -/
theorem isValid_succ_iff (h : source.toList = before ++ c :: after) :
    String.Pos.Raw.IsValid source ⟨Text.byteSize before + 1⟩ ↔ c.utf8Size = 1 := by
  constructor
  · intro hvalid
    obtain ⟨front, back, hsource, hpos⟩ := String.Pos.Raw.isValid_iff_exists_append.1 hvalid
    have hsize : Text.byteSize front.toList = Text.byteSize before + 1 := by
      rw [Text.byteSize_toList]
      exact (congrArg String.Pos.Raw.byteIdx hpos).symm
    have hfront : front.toList <+: source.toList :=
      ⟨back.toList, by rw [hsource, String.toList_append]⟩
    have hbefore : before <+: source.toList := ⟨c :: after, h.symm⟩
    obtain ⟨w, hw⟩ := Text.prefix_of_byteSize_le hbefore hfront (by omega)
    rw [← hw, Text.byteSize_append, Nat.add_left_cancel_iff] at hsize
    rw [← hw, h, List.prefix_append_right_inj, List.prefix_cons_iff] at hfront
    rcases hfront with rfl | ⟨t, rfl, -⟩
    · cases hsize
    · rw [Text.byteSize_cons] at hsize
      have hpos : 0 < c.utf8Size := c.utf8Size_pos
      omega
  · intro hone
    have happend : source.toList = before ++ [c] ++ after := by rw [h, List.append_assoc]; rfl
    have hvalid := isValid_of_append happend
    rwa [Text.byteSize_append, Text.byteSize_singleton, hone] at hvalid

/-- The span takes something from the text, and begins between two characters or at an end of it. -/
structure Span.IsWithin (source : String) (s : Span) : Prop where
  nonempty : s.start < s.stop
  inside : s.stop ≤ source.utf8ByteSize
  valid_start : String.Pos.Raw.IsValid source ⟨s.start⟩

theorem isWithin_firstByte (h : source.toList = before ++ c :: after) :
    (Span.firstByte (.advanceAll .origin before)).IsWithin source where
  nonempty := Nat.lt_succ_self _
  inside := by
    have hbyte : 0 < c.utf8Size := c.utf8Size_pos
    simp only [Span.firstByte, Position.offset_advanceAll_origin]
    rw [byteSize_of_append h, Text.byteSize_cons]
    omega
  valid_start := by
    simp only [Span.firstByte, Position.offset_advanceAll_origin]
    exact isValid_of_append h

theorem isWithin_behind {text : List Char} (h : source.toList = before ++ text ++ after)
    (hne : text ≠ []) : (Span.behind before text).IsWithin source where
  nonempty := Nat.lt_add_of_pos_right (Text.byteSize_pos hne)
  inside := by
    rw [byteSize_of_append h, Text.byteSize_append]
    exact Nat.le_add_right _ _
  valid_start := by
    rw [List.append_assoc] at h
    exact isValid_of_append h

theorem isValid_stop_behind {text : List Char} (h : source.toList = before ++ text ++ after) :
    String.Pos.Raw.IsValid source ⟨(Span.behind before text).stop⟩ := by
  have hstop := isValid_of_append h
  rwa [Text.byteSize_append] at hstop

/-- Wherever a scan fails, the span of its error is not empty, lies within the text and begins between
two characters. It also ends there, unless it is about a character of more than one byte that begins no
token. -/
theorem scan_error_span (h : scan source = .error e) :
    e.span.IsWithin source ∧
    (String.Pos.Raw.IsValid source ⟨e.span.stop⟩ ↔ ∀ c s, e = .stray c s → c.utf8Size = 1) := by
  obtain ⟨before, c, rest, hsource, hrefuses⟩ := exists_refuses_of_scanFrom h
  rcases hrefuses.stray_or_between with rfl | ⟨hstray, w, k, rfl, hspan⟩
  · refine ⟨isWithin_firstByte hsource, ?_⟩
    simp only [ScanError.span, Span.firstByte, Position.offset_advanceAll_origin]
    rw [isValid_succ_iff hsource]
    constructor
    · intro hone d s heq
      cases heq
      exact hone
    · exact fun hall ↦ hall c _ rfl
  · have hwhole : source.toList = before ++ c :: w ++ k := by rw [hsource, List.append_assoc]; rfl
    rw [Span.between_advanceAll] at hspan
    rw [hspan]
    refine ⟨isWithin_behind hwhole (List.cons_ne_nil c w), ?_⟩
    exact iff_of_true (isValid_stop_behind hwhole) fun d s heq ↦ absurd heq (hstray d s)

/-- A string literal with a letter of two bytes that is not closed, behind such a letter. -/
theorem scan_error_span_unclosed :
    scan "é 'ü" = .error (.unterminatedString ⟨1, 3, 3, 6⟩) ∧
    String.Pos.Raw.IsValid "é 'ü" ⟨3⟩ ∧ String.Pos.Raw.IsValid "é 'ü" ⟨6⟩ := by
  have hscan : scan "é 'ü" = .error (.unterminatedString ⟨1, 3, 3, 6⟩) := by
    with_unfolding_all rfl
  obtain ⟨hwithin, hstop⟩ := scan_error_span hscan
  exact ⟨hscan, hwithin.valid_start, hstop.2 nofun⟩

/-- The sign takes two bytes, and the span of the error about it ends behind the first of them. -/
theorem scan_error_inside_sign :
    scan "§" = .error (.stray '§' ⟨1, 1, 0, 1⟩) ∧ '§'.utf8Size = 2 ∧
    ¬ String.Pos.Raw.IsValid "§" ⟨1⟩ := by
  have hscan : scan "§" = .error (.stray '§' ⟨1, 1, 0, 1⟩) := by
    with_unfolding_all rfl
  have hsign : "§".toList = [] ++ '§' :: [] := by decide
  have hsize : '§'.utf8Size = 2 := by decide
  refine ⟨hscan, hsize, fun hvalid ↦ ?_⟩
  have hone : '§'.utf8Size = 1 := (isValid_succ_iff hsign).1 hvalid
  omega

end ReleaseAudit
