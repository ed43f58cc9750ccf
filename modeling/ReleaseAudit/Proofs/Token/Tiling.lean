import ReleaseAudit.Proofs.Token.Run

/-!
# The tokens of a text

Gaps and lexemes in turn make up a text. The span of a token tells where its lexeme stands.
-/

namespace ReleaseAudit

variable {p : Position} {before after cs : List Char} {t : Token} {ts : Tokens} {u : Located Token}
  {source : String}

/-- `Tiles before text ts`: the text behind `before` is made of the lexemes of `ts` with gaps between
and around them. A token has the span of its lexeme, and nothing else is found in that lexeme. -/
inductive Tiles : List Char → List Char → Tokens → Prop
  | done {before gap : List Char} : Reading.IsGap gap [] → Tiles before gap []
  | token {before gap lexeme after : List Char} {t : Token} {ts : Tokens} :
      Reading.IsGap gap (lexeme ++ after) → lexeme ≠ [] →
      scan (String.ofList lexeme) = .ok [⟨t, .behind [] lexeme⟩] →
      Tiles (before ++ gap ++ lexeme) after ts →
      Tiles before (gap ++ lexeme ++ after) (⟨t, .behind (before ++ gap) lexeme⟩ :: ts)

/-- Where the tokens of a text stand. -/
structure Placed (source : String) (ts : Tokens) : Prop where
  nonempty : ∀ t ∈ ts, t.span.start < t.span.stop
  /-- The spans lie within the text, between two characters at either end. -/
  valid : ∀ t ∈ ts, String.Pos.Raw.IsValid source ⟨t.span.start⟩ ∧
    String.Pos.Raw.IsValid source ⟨t.span.stop⟩
  ordered : ts.Pairwise fun t u ↦ t.span.stop ≤ u.span.start
  /-- What is left of the text are blanks and comments. -/
  tiles : Tiles [] source.toList ts
  /-- The characters in a span are those of its token. -/
  lexeme : ∀ t ∈ ts, ∃ before lexeme after, source.toList = before ++ lexeme ++ after ∧
    t.span = .behind before lexeme ∧
    scan (String.ofList lexeme) = .ok [⟨t.value, .behind [] lexeme⟩]

theorem scan_lexeme {c : Char} {w : List Char} (h : Reading.of c w = .token t (w.length + 1)) :
    scan (String.ofList (c :: w)) = .ok [⟨t, .behind [] (c :: w)⟩] := by
  have hscans : Scans .origin (c :: w) [⟨t, .between .origin (.advanceAll .origin (c :: w))⟩] := by
    have htoken := Scans.token (p := .origin) (k := []) (by rwa [List.append_nil]) .done
    rwa [List.append_nil] at htoken
  rw [scan, String.toList_ofList, hscans.scanFrom_eq]
  congr
  exact Span.between_advanceAll [] (c :: w)

theorem Tiles.gap {c : Char} {w k : List Char}
    (hof : Reading.of c (w ++ k) = .gap (w.length + 1)) (h : Tiles (before ++ c :: w) k ts) :
    Tiles before (c :: w ++ k) ts := by
  cases h with
  | done hgap =>
    apply Tiles.done
    apply Reading.isGap_cons _ hgap
    rwa [List.append_nil]
  | @token _ gap lexeme after t ts hgap hne hlexeme hrest =>
    rw [List.append_assoc gap] at hof
    have hwhole : Reading.IsGap (c :: w ++ gap) (lexeme ++ after) := Reading.isGap_cons hof hgap
    rw [List.append_assoc before] at hrest ⊢
    rw [← List.append_assoc, ← List.append_assoc]
    exact .token hwhole hne hlexeme hrest

theorem tiles_of_scans (h : Scans p cs ts) (hp : p = .advanceAll .origin before) :
    Tiles before cs ts := by
  induction h generalizing before with
  | done => exact .done .nil
  | @gap p c w k ts hof _ ih =>
    apply Tiles.gap hof
    apply ih
    rw [hp, Position.advanceAll_append]
  | @token p c w k t ts hof _ ih =>
    have hrest : Tiles (before ++ [] ++ c :: w) k ts := by
      apply ih
      rw [hp, List.append_nil, Position.advanceAll_append]
    have htiles := Tiles.token (t := t) .nil (List.cons_ne_nil c w)
      (scan_lexeme (Reading.token_alone hof)) hrest
    rw [List.append_nil, List.nil_append] at htiles
    rwa [hp, Span.between_advanceAll]

/-- What holds of a token in a text. -/
theorem Tiles.lexeme (h : Tiles before cs ts) (ht : u ∈ ts) :
    ∃ skipped lexeme after, cs = skipped ++ lexeme ++ after ∧ lexeme ≠ [] ∧
      u.span = .behind (before ++ skipped) lexeme ∧
      scan (String.ofList lexeme) = .ok [⟨u.value, .behind [] lexeme⟩] := by
  induction h with
  | done => cases ht
  | @token before gap lexeme after t ts _ hne hlexeme _ ih =>
    rcases List.mem_cons.1 ht with rfl | hrest
    · exact ⟨gap, lexeme, after, rfl, hne, rfl, hlexeme⟩
    · obtain ⟨skipped, text, behind, rfl, hfound⟩ := ih hrest
      refine ⟨gap ++ lexeme ++ skipped, text, behind, ?_, ?_⟩
      · simp only [List.append_assoc]
      · simpa only [List.append_assoc] using hfound

theorem Tiles.start_le (h : Tiles before cs ts) (ht : u ∈ ts) :
    Text.byteSize before ≤ u.span.start := by
  obtain ⟨skipped, lexeme, after, -, -, hspan, -⟩ := h.lexeme ht
  rw [hspan]
  change Text.byteSize before ≤ Text.byteSize (before ++ skipped)
  rw [Text.byteSize_append]
  exact Nat.le_add_right _ _

theorem Tiles.ordered (h : Tiles before cs ts) :
    ts.Pairwise fun t u ↦ t.span.stop ≤ u.span.start := by
  induction h with
  | done => exact .nil
  | @token before gap lexeme after t ts _ _ _ hrest ih =>
    refine .cons (fun u hu ↦ ?_) ih
    have hstart : Text.byteSize (before ++ gap ++ lexeme) ≤ u.span.start := hrest.start_le hu
    rwa [Text.byteSize_append] at hstart

theorem isValid_of_append (h : source.toList = before ++ after) :
    String.Pos.Raw.IsValid source ⟨Text.byteSize before⟩ := by
  rw [String.Pos.Raw.isValid_iff_exists_append]
  refine ⟨String.ofList before, String.ofList after, ?_, rfl⟩
  rw [← String.ofList_append, ← h, String.ofList_toList]

/-- The tokens of a text stand where their spans say. -/
theorem scan_placed (h : scan source = .ok ts) : Placed source ts := by
  have htiles : Tiles [] source.toList ts := tiles_of_scans (scans_of_scanFrom h) rfl
  have hlexeme : ∀ u ∈ ts, ∃ before lexeme after, source.toList = before ++ lexeme ++ after ∧
      lexeme ≠ [] ∧ u.span = .behind before lexeme ∧
      scan (String.ofList lexeme) = .ok [⟨u.value, .behind [] lexeme⟩] :=
    fun u hu ↦ htiles.lexeme hu
  refine ⟨fun u hu ↦ ?_, fun u hu ↦ ?_, htiles.ordered, htiles, fun u hu ↦ ?_⟩
  · obtain ⟨before, lexeme, after, -, hne, hspan, -⟩ := hlexeme u hu
    rw [hspan]
    exact Nat.lt_add_of_pos_right (Text.byteSize_pos hne)
  · obtain ⟨before, lexeme, after, hsource, -, hspan, -⟩ := hlexeme u hu
    rw [hspan]
    constructor
    · rw [List.append_assoc] at hsource
      exact isValid_of_append hsource
    · have hstop := isValid_of_append hsource
      rwa [Text.byteSize_append] at hstop
  · obtain ⟨before, lexeme, after, hsource, -, hspan, hscan⟩ := hlexeme u hu
    exact ⟨before, lexeme, after, hsource, hspan, hscan⟩

/-- A name of two bytes, a comment, a string over two lines and a comment at the end. -/
theorem scan_placed_lines :
    ∃ ts, scan "é # note\n+ 'ü\n'//" = .ok ts ∧ ts.length = 3 ∧
      Placed "é # note\n+ 'ü\n'//" ts := by
  have hscan : scan "é # note\n+ 'ü\n'//" =
      .ok [⟨.name "é", ⟨1, 1, 0, 2⟩⟩, ⟨.plus, ⟨2, 1, 10, 11⟩⟩,
        ⟨.string "ü\n", ⟨2, 3, 12, 17⟩⟩] := by
    with_unfolding_all rfl
  exact ⟨_, hscan, rfl, scan_placed hscan⟩

end ReleaseAudit
