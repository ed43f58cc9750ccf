import ReleaseAudit.Proofs.Token.Run

/-!
# Scanning line by line

No token goes over the end of a text that is scanned as a whole. So the text can be continued on the
next line, and what stands there is found as in a text of its own, except for its place.
-/

namespace ReleaseAudit

variable {p q : Position} {lines bytes : Nat} {cs ds : List Char} {ts : Tokens} {a b : String}

/-- The same place after `lines` more lines, which take `bytes` bytes. -/
def Position.shift (lines bytes : Nat) (p : Position) : Position :=
  ⟨p.line + lines, p.column, p.offset + bytes⟩

/-- The same span after `lines` more lines, which take `bytes` bytes. -/
def Span.shift (lines bytes : Nat) (s : Span) : Span :=
  ⟨s.line + lines, s.column, s.start + bytes, s.stop + bytes⟩

def Tokens.shift (lines bytes : Nat) (ts : Tokens) : Tokens :=
  ts.map fun t ↦ ⟨t.value, t.span.shift lines bytes⟩

def ScanError.shift (lines bytes : Nat) : ScanError → ScanError
  | stray c s => stray c (s.shift lines bytes)
  | incomplete c whole s => incomplete c whole (s.shift lines bytes)
  | unterminatedString s => unterminatedString (s.shift lines bytes)
  | malformedNumber text s => malformedNumber text (s.shift lines bytes)

/-! ## The place where a text begins -/

theorem Position.advance_shift (c : Char) :
    (p.shift lines bytes).advance c = (p.advance c).shift lines bytes := by
  by_cases hc : c = '\n' <;> simp only [advance, shift, hc, beq_iff_eq, if_true, if_false,
    Nat.add_right_comm]

theorem Position.advanceAll_shift (cs : List Char) :
    (p.shift lines bytes).advanceAll cs = (p.advanceAll cs).shift lines bytes := by
  induction cs generalizing p with
  | nil => rfl
  | cons c cs ih =>
    calc
      _ = ((p.shift lines bytes).advance c).advanceAll cs := rfl
      _ = ((p.advance c).shift lines bytes).advanceAll cs := by rw [advance_shift]
      _ = _ := ih

theorem Position.between_shift :
    Span.between (p.shift lines bytes) (q.shift lines bytes) =
      (Span.between p q).shift lines bytes := rfl

theorem Position.firstByte_shift :
    Span.firstByte (p.shift lines bytes) = (Span.firstByte p).shift lines bytes := by
  simp only [Span.firstByte, shift, Span.shift, Nat.add_right_comm]

/-- The outcome of a scan after `lines` more lines, which take `bytes` bytes. -/
def shifted (lines bytes : Nat) : Except ScanError Tokens → Except ScanError Tokens
  | .ok ts => .ok (Tokens.shift lines bytes ts)
  | .error e => .error (e.shift lines bytes)

theorem shifted_map_cons (t : Token) (s : Span) (outcome : Except ScanError Tokens) :
    shifted lines bytes (outcome.map (⟨t, s⟩ :: ·)) =
      (shifted lines bytes outcome).map (⟨t, s.shift lines bytes⟩ :: ·) := by
  cases outcome <;> rfl

theorem scanFrom_shift :
    scanFrom (p.shift lines bytes) cs = shifted lines bytes (scanFrom p cs) := by
  induction p, cs using scanFrom.induct with
  | case1 =>
    rw [scanFrom, scanFrom]
    rfl
  | case2 p c rest n hof ih =>
    rw [scanFrom, scanFrom]
    simp only [hof, Position.advanceAll_shift, ih]
  | case3 p c rest t n hof ih =>
    rw [scanFrom, scanFrom]
    simp only [hof, Position.advanceAll_shift, Position.between_shift, ih, shifted_map_cons]
  | case4 p c rest whole hof | case5 p c rest n hof | case6 p c rest text n hof =>
    rw [scanFrom, scanFrom]
    simp only [hof, Position.advanceAll_shift, Position.between_shift, shifted, ScanError.shift]
  | case7 p c rest hof =>
    rw [scanFrom, scanFrom]
    simp only [hof, Position.firstByte_shift, shifted, ScanError.shift]

/-! ## The next line -/

theorem Scans.next_line (h : Scans p cs ts) :
    scanFrom p (cs ++ '\n' :: ds) = (scanFrom (p.advanceAll (cs ++ ['\n'])) ds).map (ts ++ ·) := by
  have hbreak : ∀ d ∈ ('\n' :: ds).head?, d = '\n' := by simp
  induction h with
  | @done p =>
    have hgap : Reading.of '\n' ([] ++ ds) = .gap 1 := Reading.of_blank (by decide) ds
    calc
      _ = scanFrom (p.advanceAll ['\n']) ds := scanFrom_gap hgap
      _ = _ := (congrFun Except.map_id _).symm
  | @gap p c w k ts hof _ ih =>
    have hgap := Reading.gap_append hof hbreak
    rw [List.append_assoc] at hgap
    calc
      _ = scanFrom p (c :: w ++ (k ++ '\n' :: ds)) := by rw [List.append_assoc]
      _ = scanFrom (p.advanceAll (c :: w)) (k ++ '\n' :: ds) := scanFrom_gap hgap
      _ = _ := by rw [ih, List.append_assoc, ← Position.advanceAll_append]
  | @token p c w k t ts hof _ ih =>
    have htoken := Reading.token_append hof (k := '\n' :: ds) (Reading.ends_cons (by decide))
    rw [List.append_assoc] at htoken
    calc
      _ = scanFrom p (c :: w ++ (k ++ '\n' :: ds)) := by rw [List.append_assoc]
      _ = (scanFrom (p.advanceAll (c :: w)) (k ++ '\n' :: ds)).map
          (⟨t, .between p (p.advanceAll (c :: w))⟩ :: ·) := scanFrom_token htoken
      _ = ((scanFrom (p.advanceAll (c :: w ++ k ++ ['\n'])) ds).map (ts ++ ·)).map
          (⟨t, .between p (p.advanceAll (c :: w))⟩ :: ·) := by
        rw [ih, List.append_assoc (c :: w), ← Position.advanceAll_append]
      _ = _ := by cases scanFrom (p.advanceAll (c :: w ++ k ++ ['\n'])) ds <;> rfl

theorem advanceAll_line (cs : List Char) :
    Position.advanceAll .origin (cs ++ ['\n']) =
      Position.origin.shift (cs.count '\n' + 1) (Text.byteSize cs + 1) := by
  have hline : (Position.advanceAll .origin (cs ++ ['\n'])).line = 1 + (cs.count '\n' + 1) := by
    rw [Position.line_advanceAll, List.count_append]
    rfl
  have hcolumn : (Position.advanceAll .origin (cs ++ ['\n'])).column = 1 := by
    rw [Position.column_advanceAll, Text.lastLine_concat]
    rfl
  have hoffset :
      (Position.advanceAll .origin (cs ++ ['\n'])).offset = 0 + (Text.byteSize cs + 1) := by
    rw [Position.offset_advanceAll, Text.byteSize_append]
    rfl
  exact Position.ext hline hcolumn hoffset

/-- When a text is scanned as a whole, it can be continued on the next line. -/
theorem scan_append_line (h : scan a = .ok ts) :
    scan (a ++ "\n" ++ b) =
      (shifted (a.toList.count '\n' + 1) (a.utf8ByteSize + 1) (scan b)).map (ts ++ ·) := by
  have hscans : Scans .origin a.toList ts := scans_of_scanFrom h
  calc
    _ = scanFrom .origin (a.toList ++ '\n' :: b.toList) := by
      rw [scan, String.toList_append, String.toList_append, List.append_assoc]
      rfl
    _ = (scanFrom (.advanceAll .origin (a.toList ++ ['\n'])) b.toList).map (ts ++ ·) :=
      hscans.next_line
    _ = _ := by rw [advanceAll_line, scanFrom_shift, scan, Text.byteSize_toList]

theorem scan_append_line_comment :
    scan ("a // é" ++ "\n" ++ "'b\n' $") =
      .ok [⟨.name "a", ⟨1, 1, 0, 1⟩⟩, ⟨.string "b\n", ⟨2, 1, 8, 12⟩⟩,
        ⟨.name "$", ⟨3, 3, 13, 14⟩⟩] := by
  have hline : scan "a // é" = .ok [⟨.name "a", ⟨1, 1, 0, 1⟩⟩] := by with_unfolding_all rfl
  have hnext : scan "'b\n' $" = .ok [⟨.string "b\n", ⟨1, 1, 0, 4⟩⟩, ⟨.name "$", ⟨2, 3, 5, 6⟩⟩] := by
    with_unfolding_all rfl
  rw [scan_append_line hline, hnext]
  rfl

end ReleaseAudit
