import Mathlib.Data.List.Basic
import ReleaseAudit.Proofs.Expr.Blame
import ReleaseAudit.Proofs.Expr.Layout
import ReleaseAudit.Proofs.Text.Line

/-!
# Located errors

Whatever fails on the way from a text to the value of its expression, the error is located at a
character of the text, and the snippet for it shows the line of this character. Lines are counted by
the scanner and taken apart by the snippet, which also knows CR LF as a line break.
-/

namespace ReleaseAudit

/-! ## Snippets -/

/-- The span begins behind `before`. -/
structure Span.BeginsBehind (s : Span) (before : List Char) : Prop where
  start_eq : s.start = Text.byteSize before
  line_eq : s.line = 1 + before.count '\n'
  column_eq : s.column = 1 + (Text.lastLine before).length

namespace Snippet

/-- The lines of a snippet: a head with the place, the line of the text in front if there is one, `line`
itself behind its number, the message behind a caret, and the next line of the text if there is one. -/
def linesAround (source message line : String) (s : Span) : List String :=
  ["  --> line " ++ toString s.line ++ ":" ++ toString s.column, "   |"] ++
    (if s.line = 1 then [] else
      ((Text.lines source)[s.line - 2]?.map (" " ++ toString (s.line - 1) ++ " | " ++ ·)).toList) ++
    [" " ++ toString s.line ++ " | " ++ line,
      "   | " ++ String.ofList (List.replicate (s.column - 1) ' ') ++ "^ " ++ message] ++
    ((Text.lines source)[s.line]?.map (" " ++ toString (s.line + 1) ++ " | " ++ ·)).toList ++
    ["   |"]

/-- With any message the snippet shows `line`, the lines around it and a caret below it. -/
def Shows (source line : String) (s : Span) : Prop :=
  ∀ message, (render message source s).toList =
    ['\n'].intercalate ((linesAround source message line s).map String.toList)

end Snippet

/-- The span begins at the character `c` of the text, which stands on the line `start ++ c :: tail`,
and this line is shown. -/
inductive Quoted (source : String) (s : Span) : Prop
  | intro {above start tail below : List Char} {c : Char} :
      Text.IsLine source.toList above (start ++ c :: tail) below →
      s.BeginsBehind (above ++ start) →
      (Text.lines source)[s.line - 1]? = some (String.ofList (start ++ c :: tail)) →
      Snippet.Shows source (String.ofList (start ++ c :: tail)) s → Quoted source s

theorem Span.beginsBehind_of_first {s : Span} {before : List Char}
    (h : s.first = .advanceAll .origin before) : s.BeginsBehind before where
  start_eq := start_of_first h
  line_eq := by
    have hline := congrArg Position.line h
    rwa [Position.line_advanceAll] at hline
  column_eq := by
    have hcolumn := congrArg Position.column h
    rwa [Position.column_advanceAll] at hcolumn

namespace Snippet

variable {source line : String} {s : Span}

theorem render_of_getElem? (hpos : 0 < s.line) (h : (Text.lines source)[s.line - 1]? = some line)
    (message : String) :
    render message source s = Text.intercalate "\n" (linesAround source message line s) := by
  have hindex : (s.line - 1 = 0) = (s.line = 1) := by
    rw [eq_iff_iff]
    omega
  have hbelow : s.line - 1 + 1 = s.line := Nat.sub_add_cancel hpos
  have hnumbered (n : ℕ) : numbered n = fun l ↦ " " ++ toString n ++ " | " ++ l := rfl
  simp only [render, h, hindex, hbelow, Nat.sub_sub, body, caret, linesAround, hnumbered]
  split <;> simp

theorem shows_of_getElem? (hpos : 0 < s.line) (h : (Text.lines source)[s.line - 1]? = some line) :
    Shows source line s := by
  intro message
  rw [render_of_getElem? hpos h, Text.toList_intercalate]
  rfl

end Snippet

/-- A span that begins where the text has a character that is not blank. -/
theorem quoted_of_begins {source : String} {s : Span} (h : Begins source.toList s.first) :
    Quoted source s := by
  obtain ⟨before, c, after, hsource, hblank, hfirst⟩ := h
  have hbegins := Span.beginsBehind_of_first hfirst
  have hbreak : c ≠ '\n' := by
    rintro rfl
    exact hblank (by decide)
  have hreturn : c ≠ '\r' := by
    rintro rfl
    exact hblank (by decide)
  obtain ⟨above, tail, below, hbefore, hline⟩ :=
    Text.exists_isLine before after hbreak hreturn
  rw [← hsource] at hline
  have hfound := hline.getElem? (by simp)
  have hlines : (Text.lines source)[s.line - 1]? =
      some (String.ofList (Text.lineStart before ++ c :: tail)) := by
    rw [hbegins.line_eq, Nat.add_sub_cancel_left, Text.count_above hbefore, Text.lines,
      List.getElem?_map, hfound]
    rfl
  have hpos : 0 < s.line := by
    rw [hbegins.line_eq]
    omega
  rw [hbefore] at hbegins
  exact .intro hline hbegins hlines (Snippet.shows_of_getElem? hpos hlines)

/-! ## From the text to the value -/

theorem begins_of_scan {source : String} {ts : Tokens} (h : scan source = .ok ts) :
    ∀ t ∈ ts, Begins source.toList t.span.first :=
  (scans_of_scanFrom h).begins (List.nil_append _).symm rfl

theorem marked_of_parse {source : String} {e : Expr} (h : Expr.parse source = .ok e) :
    e.Marked (Begins source.toList) := by
  obtain ⟨ts, hscan, hlaid⟩ := Expr.exists_laidOut_of_parse h
  refine hlaid.imp fun e' hnode ↦ ?_
  obtain ⟨t, ht, hfirst⟩ := hnode.standsOver.first
  rw [hfirst]
  exact begins_of_scan hscan t ht

theorem begins_of_scan_error {source : String} {e : ScanError} (h : scan source = .error e) :
    Begins source.toList e.span.first :=
  begins_of_scanFrom_error h (List.nil_append _).symm rfl

theorem begins_of_parse_error {source : String} {e : ParseError} {s : Span}
    (h : Expr.parse source = .error e) (hs : e.span? = some s) : Begins source.toList s.first := by
  unfold Expr.parse at h
  cases hscan : scan source with
  | error err =>
    simp only [hscan] at h
    cases h
    cases hs
    exact begins_of_scan_error hscan
  | ok ts =>
    simp only [hscan] at h
    obtain ⟨t, ht, rfl⟩ := Expr.exists_token_of_ofTokens_error h hs
    exact begins_of_scan hscan t ht

theorem begins_of_compile_error {env : Environment} {source : String} {e : CompileError} {s : Span}
    (h : Expr.compile env source = .error e) (hs : e.span? = some s) :
    Begins source.toList s.first := by
  cases hparse : Expr.parse source with
  | error err =>
    simp only [Expr.compile, hparse] at h
    cases h
    exact begins_of_parse_error hparse hs
  | ok parsed =>
    have hmarked := marked_of_parse hparse
    cases e with
    | parse err =>
      simp only [Expr.compile, hparse] at h
      split at h <;> cases h
    | unknownName n s' =>
      cases hs
      exact Expr.first_of_unknownName hparse h hmarked

theorem marked_of_compile {env : Environment} {source : String} {e : Expr}
    (h : Expr.compile env source = .ok e) : e.Marked (Begins source.toList) := by
  cases hparse : Expr.parse source with
  | error err => simp [Expr.compile, hparse] at h
  | ok parsed =>
    simp only [Expr.compile, hparse] at h
    split at h
    · cases h
    · cases h
      exact marked_of_parse hparse

theorem quoted_of_evaluate_error [HostCode] {source : String} {env env' : Environment} {e : Expr}
    {err : EvalError} (hcompile : Expr.compile env source = .ok e)
    (herr : (e.evaluate env').1 = .error err) (hraises : ¬ Expr.Raises env' e err) :
    ∃ s, err.span = some s ∧ Quoted source s := by
  rcases Expr.first_of_evaluate_error (marked_of_compile hcompile) herr with ⟨s, hs, hbegins⟩ | hraised
  · exact ⟨s, hs, quoted_of_begins hbegins⟩
  · exact absurd hraised hraises

end ReleaseAudit
