import Mathlib
import ReleaseAudit.Proofs.Expr.Located

/-!
# The caret of a snippet

A snippet quotes the line of an error behind the number of the line, and puts the caret behind a margin
that has room for one digit. So the caret stands below the character that the error is located at on the
first nine lines, and too far to the left by the other digits of the number below them.
-/

namespace ReleaseAudit

variable {source : String} {s : Span} {front blank : List Char} {message : String}

/-- The places of the errors that come of a text: reading it, compiling it and evaluating it. -/
inductive LocatedError (source : String) : Span → Prop
  | scan {e : ScanError} : scan source = .error e → LocatedError source e.span
  | parse {e : ParseError} {s : Span} : Expr.parse source = .error e → e.span? = some s →
      LocatedError source s
  | compile {env : Environment} {e : CompileError} {s : Span} :
      Expr.compile env source = .error e → e.span? = some s → LocatedError source s
  /-- The environment need not be the one that the expression was compiled in. The errors that functions
  of the embedding program raise are about other texts. -/
  | evaluate [HostCode] {env env' : Environment} {e : Expr} {err : EvalError} {s : Span} :
      Expr.compile env source = .ok e → (e.evaluate env').1 = .error err → err.span = some s →
      ¬ Expr.Raises env' e err → LocatedError source s

theorem LocatedError.quoted (h : LocatedError source s) : Quoted source s := by
  cases h with
  | scan herr => exact quoted_of_begins (begins_of_scan_error herr)
  | parse herr hs => exact quoted_of_begins (begins_of_parse_error herr hs)
  | compile herr hs => exact quoted_of_begins (begins_of_compile_error herr hs)
  | evaluate hcompile herr hs hraises =>
    obtain ⟨s', hs', hquoted⟩ := quoted_of_evaluate_error hcompile herr hraises
    cases hs'.symm.trans hs
    exact hquoted

/-- The column of a character counts the characters in front of it on its line. -/
theorem Text.lastLine_append {above start : List Char}
    (habove : above = [] ∨ above.getLast? = some '\n') (hstart : '\n' ∉ start) :
    lastLine (above ++ start) = start.reverse := by
  have hpass : ∀ c ∈ start.reverse, (c != '\n') = true := by
    intro c hc
    rw [bne_iff_ne]
    rintro rfl
    exact hstart (List.mem_reverse.1 hc)
  have hstop : above.reverse.takeWhile (· != '\n') = [] := by
    rcases habove with rfl | hlast
    · rfl
    · rw [← List.head?_reverse] at hlast
      obtain ⟨rest, hrest⟩ := List.head?_eq_some_iff.1 hlast
      rw [hrest]
      rfl
  calc
    lastLine (above ++ start) = (start.reverse ++ above.reverse).takeWhile (· != '\n') := by
      rw [lastLine, List.reverse_append]
    _ = start.reverse ++ above.reverse.takeWhile (· != '\n') := List.takeWhile_append_of_pos hpass
    _ = start.reverse := by rw [hstop, List.append_nil]

namespace Snippet

/-- The snippet for `message` has a line with the character `c` of the text that the span begins at
behind `front`, which is the number of the line and what stands on it before `c`. The next line has the
caret behind `blank`. -/
inductive Points (source message : String) (s : Span) (front blank : List Char) : Prop
  | intro {above start tail below : List Char} {c : Char} {shownAbove shownBelow : List String} :
      Text.IsLine source.toList above (start ++ c :: tail) below →
      s.BeginsBehind (above ++ start) →
      front = ' ' :: Nat.toDigits 10 s.line ++ [' ', '|', ' '] ++ start →
      blank = [' ', ' ', ' ', '|', ' '] ++ List.replicate start.length ' ' →
      render message source s = Text.intercalate "\n" (shownAbove ++
        [String.ofList (front ++ c :: tail), String.ofList (blank ++ '^' :: ' ' :: message.toList)] ++
        shownBelow) →
      Points source message s front blank

theorem numbered_eq (number : ℕ) (line : List Char) :
    " " ++ toString number ++ " | " ++ String.ofList line =
      String.ofList (' ' :: Nat.toDigits 10 number ++ [' ', '|', ' '] ++ line) := by
  apply String.toList_inj.1
  simp

theorem caret_eq (width : ℕ) (message : String) :
    "   | " ++ String.ofList (List.replicate width ' ') ++ "^ " ++ message =
      String.ofList ([' ', ' ', ' ', '|', ' '] ++ List.replicate width ' ' ++
        '^' :: ' ' :: message.toList) := by
  apply String.toList_inj.1
  simp

theorem length_toDigits_eq_one_iff (n : ℕ) : (Nat.toDigits 10 n).length = 1 ↔ n < 10 := by
  have hpos : 0 < (Nat.toDigits 10 n).length := Nat.length_toDigits_pos
  have hle : (Nat.toDigits 10 n).length ≤ 1 ↔ n < 10 ^ 1 :=
    Nat.length_toDigits_le_iff (by decide) (by decide)
  omega

theorem column_of_isLine {above start tail below : List Char} {c : Char}
    (hline : Text.IsLine source.toList above (start ++ c :: tail) below)
    (hbegins : s.BeginsBehind (above ++ start)) : s.column = 1 + start.length := by
  have hstart : '\n' ∉ start := fun hmem ↦ hline.single (List.mem_append_left _ hmem)
  rw [hbegins.column_eq, Text.lastLine_append hline.starts hstart, List.length_reverse]

theorem points_of_quoted (h : Quoted source s) (message : String) :
    ∃ front blank, Points source message s front blank := by
  obtain @⟨above, start, tail, below, c, hline, hbegins, hfound, -⟩ := h
  have hpos : 0 < s.line := by
    rw [hbegins.line_eq]
    omega
  have hwidth : s.column - 1 = start.length := by
    rw [column_of_isLine hline hbegins, Nat.add_sub_cancel_left]
  let shownAbove := ["  --> line " ++ toString s.line ++ ":" ++ toString s.column, "   |"] ++
    (if s.line = 1 then [] else
      ((Text.lines source)[s.line - 2]?.map (" " ++ toString (s.line - 1) ++ " | " ++ ·)).toList)
  let shownBelow :=
    ((Text.lines source)[s.line]?.map (" " ++ toString (s.line + 1) ++ " | " ++ ·)).toList ++ ["   |"]
  refine ⟨_, _, @Points.intro _ _ _ _ _ _ _ _ _ _ shownAbove shownBelow hline hbegins rfl rfl ?_⟩
  rw [render_of_getElem? hpos hfound]
  simp only [linesAround, numbered_eq, caret_eq, hwidth, shownAbove, shownBelow, List.append_assoc]

theorem Points.length_front (h : Points source message s front blank) :
    front.length + 1 = s.column + 4 + (Nat.toDigits 10 s.line).length := by
  obtain ⟨hline, hbegins, rfl, -, -⟩ := h
  rw [column_of_isLine hline hbegins]
  simp only [List.length_append, List.length_cons, List.length_nil]
  omega

theorem Points.length_blank (h : Points source message s front blank) :
    blank.length = s.column + 4 := by
  obtain ⟨hline, hbegins, -, rfl, -⟩ := h
  rw [column_of_isLine hline hbegins]
  simp only [List.length_append, List.length_cons, List.length_nil, List.length_replicate]
  omega

end Snippet

/-- The snippet of every located error points at its character. What stands before the caret is shorter
than what stands before the character by all digits of the line's number but one, so that the caret
stands below the character exactly when there is one digit. -/
theorem caret_below (h : LocatedError source s) (message : String) :
    ∃ front blank, Snippet.Points source message s front blank ∧
      blank.length + (Nat.toDigits 10 s.line).length = front.length + 1 ∧
      (blank.length = front.length ↔ s.line < 10) := by
  obtain ⟨front, blank, hpoints⟩ := Snippet.points_of_quoted h.quoted message
  have hlength : blank.length + (Nat.toDigits 10 s.line).length = front.length + 1 := by
    rw [hpoints.length_blank, hpoints.length_front]
  refine ⟨front, blank, hpoints, hlength, ?_⟩
  rw [← Snippet.length_toDigits_eq_one_iff]
  omega

/-- Nine empty lines, and a character on the tenth that begins no token. -/
def strayBelow : String := "\n\n\n\n\n\n\n\n\n  ~"

theorem scan_strayBelow : scan strayBelow = .error (.stray '~' ⟨10, 3, 11, 12⟩) := by
  with_unfolding_all rfl

theorem caret_below_tenth_line :
    LocatedError strayBelow ⟨10, 3, 11, 12⟩ ∧
    ∃ front blank, Snippet.Points strayBelow "?" ⟨10, 3, 11, 12⟩ front blank ∧
      blank.length + 2 = front.length + 1 ∧ blank.length ≠ front.length := by
  have hlocated : LocatedError strayBelow ⟨10, 3, 11, 12⟩ := .scan scan_strayBelow
  obtain ⟨front, blank, hpoints, hlength, hbelow⟩ := caret_below hlocated "?"
  exact ⟨hlocated, front, blank, hpoints, hlength, mt hbelow.1 (by decide)⟩

/-- Eight characters are in front of the stray one, and seven in front of the caret. -/
theorem caret_left_of_stray :
    scan strayBelow = .error (.stray '~' ⟨10, 3, 11, 12⟩) ∧
    Snippet.render "?" strayBelow ⟨10, 3, 11, 12⟩ =
      "  --> line 10:3\n   |\n 9 | \n 10 |   ~\n   |   ^ ?\n   |" ∧
    ∀ front blank, Snippet.Points strayBelow "?" ⟨10, 3, 11, 12⟩ front blank →
      front.length = 8 ∧ blank.length = 7 := by
  refine ⟨scan_strayBelow, by with_unfolding_all rfl, fun front blank hpoints ↦ ?_⟩
  have hfront : front.length + 1 = 3 + 4 + 2 := hpoints.length_front
  exact ⟨Nat.succ.inj hfront, hpoints.length_blank⟩

end ReleaseAudit
