import Mathlib.Data.List.TakeWhile
import ReleaseAudit.Proofs.Decimal.Positional
import ReleaseAudit.Proofs.Token.Run

/-!
# Scanning what was written

Tokens are written one after the other with a blank between them, and perhaps more blanks and
comments. Scanning reads them back.
-/

namespace ReleaseAudit

variable {p : Position} {c quote : Char} {ds es gap after cs : List Char} {s source : String}
  {t : Token} {ts : List Token} {us : Tokens}

/-! ## Written tokens -/

namespace Token

/-- A name that is not a keyword. -/
structure IsName (s : String) : Prop where
  spelled : ∃ c cs, s.toList = c :: cs ∧ isNameStart c ∧ ∀ d ∈ cs, isNamePart d
  notKeyword : keywords.lookup s = none

/-- A finite number that is not less than zero and is read back from its text. -/
structure IsAmount (x : Float) : Prop where
  finite : Decimal.isFinite x
  nonnegative : 0 ≤ x
  readBack : Decimal.read? (Decimal.write x).toList = some x

/-- The names and numbers are as they should be; the content of a string is arbitrary. -/
def IsSound : Token → Prop
  | name s => IsName s
  | number x => IsAmount x
  | _ => True

/-- A character in a string literal: the backslash and the quote are escaped. -/
def escaped (quote c : Char) : List Char := if c = '\\' ∨ c = quote then ['\\', c] else [c]

def quoted (quote : Char) (s : String) : List Char :=
  quote :: (s.toList.flatMap (escaped quote) ++ [quote])

/-- A string is written between either of the quotes, every other token as its text. -/
inductive Spells : Token → List Char → Prop
  | string {quote : Char} {s : String} : quote = '"' ∨ quote = '\'' →
      Spells (string s) (quoted quote s)
  | other {t : Token} : (∀ s, t ≠ string s) → Spells t t.text.toList

end Token

/-- `Written ts text`: in front of a token of `ts` there are blanks and comments, or nothing; behind it
there is a blank unless the text ends. -/
inductive Written : List Token → List Char → Prop
  | nil {gap : List Char} : Reading.IsGap gap [] → Written [] gap
  | cons {gap lexeme after : List Char} {t : Token} {ts : List Token} :
      Reading.IsGap gap (lexeme ++ after) → t.Spells lexeme → Reading.Ends after →
      Written ts after → Written (t :: ts) (gap ++ lexeme ++ after)

/-! ## Reading one token -/

namespace Reading

theorem stringBody?_escaped (hquote : quote = '"' ∨ quote = '\'') (cs : List Char) :
    stringBody? quote (cs.flatMap (Token.escaped quote) ++ [quote]) =
      some (cs, (cs.flatMap (Token.escaped quote)).length + 1) := by
  have hslash : quote ≠ '\\' := by rcases hquote with rfl | rfl <;> decide
  induction cs with
  | nil =>
    rw [List.flatMap_nil, List.nil_append, stringBody?_cons hslash, if_pos (beq_self_eq_true quote)]
    rfl
  | cons c cs ih =>
    rw [List.flatMap_cons, List.append_assoc, Token.escaped]
    split
    case isTrue hc =>
      have hplain : unescape c = c := by
        rcases hc with rfl | rfl
        · rfl
        · rcases hquote with rfl | rfl <;> rfl
      simp [stringBody?, ih, hplain]
    case isFalse hc =>
      have hne : c ≠ '\\' ∧ c ≠ quote := not_or.1 hc
      rw [List.singleton_append, stringBody?_cons hne.1, if_neg (by simpa using hne.2), ih]
      rfl

theorem of_quoted (hquote : quote = '"' ∨ quote = '\'') (s : String) :
    of quote (s.toList.flatMap (Token.escaped quote) ++ [quote]) =
      .token (.string s) ((Token.quoted quote s).length) := by
  rw [of_quote hquote, stringLiteral, stringBody?_escaped hquote]
  simp [Token.quoted]

theorem numeral_digits {point mark : Bool} (hds : ∀ d ∈ ds, d.isDigit) (cs : List Char) :
    numeral point mark (ds ++ cs) =
      (ds ++ (numeral point mark cs).1, ds.length + (numeral point mark cs).2) := by
  induction ds with
  | nil => simp
  | cons d ds ih =>
    obtain ⟨hd, hds⟩ := List.forall_mem_cons.1 hds
    rw [List.cons_append, numeral_digit hd, ih hds]
    simp [Nat.add_right_comm]

theorem numeral_of_isDigits {point mark : Bool} (h : Decimal.IsDigits ds) :
    numeral point mark ds = (ds, ds.length) := by
  have hnumeral : numeral point mark (ds ++ []) = _ := numeral_digits h.2 []
  simpa [numeral] using hnumeral

theorem numeral_plain (h : Decimal.IsPlain cs) : numeral false false cs = (cs, cs.length) := by
  cases h with
  | whole hds => exact numeral_of_isDigits hds
  | @point ds es hds hes =>
    have hhead : es.head?.any Char.isDigit := by
      obtain ⟨e, es, rfl⟩ := List.exists_cons_of_ne_nil hes.1
      exact hes.2 e List.mem_cons_self
    rw [numeral_digits hds.2, numeral_point hhead, numeral_of_isDigits hes]
    simp

theorem of_plain {x : Float} (h : Decimal.IsPlain cs) (hx : Decimal.read? cs = some x) :
    ∃ c w, cs = c :: w ∧ of c w = .token (.number x) (w.length + 1) := by
  have hfirst : ∃ c w, cs = c :: w ∧ c.isDigit := by
    cases h with
    | whole hds =>
      obtain ⟨d, ds, rfl⟩ := List.exists_cons_of_ne_nil hds.1
      exact ⟨d, ds, rfl, hds.2 d List.mem_cons_self⟩
    | @point ds es hds _ =>
      obtain ⟨d, ds, rfl⟩ := List.exists_cons_of_ne_nil hds.1
      exact ⟨d, ds ++ '.' :: es, rfl, hds.2 d List.mem_cons_self⟩
  obtain ⟨c, w, rfl, hc⟩ := hfirst
  refine ⟨c, w, rfl, ?_⟩
  rw [of_digit hc]
  apply numberLiteral_eq_token_iff.2
  refine ⟨c :: w, x, numeral_plain h, ?_, hx, rfl⟩
  rw [← List.length_cons (a := c), List.drop_length]
  rfl

theorem of_name (hs : Token.IsName s) :
    ∃ c w, s.toList = c :: w ∧ of c w = .token (.name s) (w.length + 1) := by
  obtain ⟨c, w, hspelled, hc, hw⟩ := hs.spelled
  have hall : ∀ d ∈ c :: w, isNamePart d :=
    List.forall_mem_cons.2 ⟨isNamePart_of_isNameStart hc, hw⟩
  have htake : (c :: w).takeWhile isNamePart = c :: w := List.takeWhile_eq_self_iff.2 hall
  have hword : Token.ofWord (String.ofList (c :: w)) = .name s := by
    rw [← hspelled, String.ofList_toList, Token.ofWord, hs.notKeyword]
    rfl
  refine ⟨c, w, hspelled, ?_⟩
  rw [of_nameStart hc, word, htake, hword]
  rfl

theorem of_spelled (ht : t.IsSound) (hzero : t ≠ .number (-0.0)) (h : t.Spells cs) :
    ∃ c w, cs = c :: w ∧ of c w = .token t (w.length + 1) := by
  cases h with
  | @string quote s hquote => exact ⟨quote, _, rfl, of_quoted hquote s⟩
  | other hstring =>
    cases t with
    | name s => exact of_name ht
    | number x =>
      -- Of the numbers that are not less than zero only negative zero is written with a sign.
      have hsign : Decimal.isNegative x = false := by
        by_contra hnegative
        rw [Bool.not_eq_false] at hnegative
        exact hzero (congrArg Token.number (Decimal.eq_negative_zero ht.nonnegative hnegative))
      exact of_plain (Decimal.isPlain_write ht.finite hsign) ht.readBack
    | string s => exact absurd rfl (hstring s)
    | _ => exact ⟨_, _, rfl, rfl⟩

end Reading

/-! ## Reading them all -/

theorem Scans.isGap (hgap : Reading.IsGap gap after) (h : Scans (p.advanceAll gap) after us) :
    Scans p (gap ++ after) us := by
  induction hgap generalizing p with
  | nil => exact h
  | @blank c g k hc hg ih =>
    have hof : Reading.of c ([] ++ (g ++ k)) = .gap 1 := Reading.of_blank hc _
    exact Scans.gap (w := []) hof (ih h)
  | @comment w g k hcomment hg ih =>
    rw [Position.advanceAll_append] at h
    obtain ⟨c, w, rfl⟩ := hcomment.exists_cons
    rw [List.append_assoc]
    exact .gap (Reading.of_comment hcomment rfl) (ih h)

theorem Written.scans (h : Written ts cs) (hts : ∀ t ∈ ts, t.IsSound)
    (hzero : ∀ t ∈ ts, t ≠ .number (-0.0)) (p : Position) :
    ∃ us, Scans p cs us ∧ us.map Located.value = ts := by
  induction h generalizing p with
  | @nil gap hgap =>
    have hscans := Scans.isGap (p := p) hgap .done
    rw [List.append_nil] at hscans
    exact ⟨[], hscans, rfl⟩
  | @cons gap lexeme after t ts hgap hlexeme hends _ ih =>
    obtain ⟨ht, hts⟩ := List.forall_mem_cons.1 hts
    obtain ⟨hnumber, hzero⟩ := List.forall_mem_cons.1 hzero
    obtain ⟨c, w, rfl, hof⟩ := Reading.of_spelled ht hnumber hlexeme
    obtain ⟨us, hafter, rfl⟩ := ih hts hzero ((p.advanceAll gap).advanceAll (c :: w))
    rw [List.append_assoc]
    exact ⟨_, .isGap hgap (.token (Reading.token_append hof hends) hafter), rfl⟩

/-- Scanning gives the tokens back. -/
theorem scan_written (hts : ∀ t ∈ ts, t.IsSound) (hzero : .number (-0.0) ∉ ts)
    (h : Written ts source.toList) : ∃ us, scan source = .ok us ∧ us.map Located.value = ts := by
  have hnonzero : ∀ t ∈ ts, t ≠ .number (-0.0) := fun t ht heq ↦ hzero (heq ▸ ht)
  obtain ⟨us, hscans, hvalues⟩ := h.scans hts hnonzero .origin
  exact ⟨us, hscans.scanFrom_eq, hvalues⟩

/-- A name, an operator, a string that holds its quote and a line break, a comment, and a number. -/
theorem scan_written_comparison :
    ∃ us, scan "a == 'it\\'s\n' // not\n1.5" = .ok us ∧
      us.map Located.value = [.name "a", .eq, .string "it's\n", .number 1.5] := by
  have hname : Token.IsName "a" := ⟨⟨'a', [], by decide, by decide, by simp⟩, by decide⟩
  have hamount : Token.IsAmount 1.5 :=
    ⟨by with_unfolding_all rfl, by decide, by with_unfolding_all rfl⟩
  have hsound : ∀ t ∈ [.name "a", .eq, .string "it's\n", .number 1.5], Token.IsSound t := by
    simp [Token.IsSound, hname, hamount]
  have hnumber : Token.Spells (.number 1.5) "1.5".toList := by
    have hspells := Token.Spells.other (t := .number 1.5) (by simp)
    have htext : (Token.number 1.5).text = "1.5" := by with_unfolding_all rfl
    rwa [htext] at hspells
  have hcomment : Reading.IsComment (['/', '/'] ++ " not".toList) ('\n' :: "1.5".toList) :=
    .intro (.inr rfl) (by decide) (by simp)
  have hblank : ' ' ∈ Reading.blanks := by decide
  have hwritten : Written [.name "a", .eq, .string "it's\n", .number 1.5]
      ([] ++ "a".toList ++ ([' '] ++ "==".toList ++ ([' '] ++ Token.quoted '\'' "it's\n" ++
        (' ' :: (['/', '/'] ++ " not".toList ++ ['\n']) ++ "1.5".toList ++ [])))) := by
    apply Written.cons .nil (.other (by simp)) (Reading.ends_cons hblank)
    apply Written.cons (.blank hblank .nil) (.other (by simp)) (Reading.ends_cons hblank)
    apply Written.cons (.blank hblank .nil) (.string (.inr rfl)) (Reading.ends_cons hblank)
    apply Written.cons (.blank hblank (.comment hcomment (.blank (by decide) .nil))) hnumber
      Reading.ends_nil
    exact .nil .nil
  have hnonzero : (-0.0 : Float) ≠ 1.5 := by decide
  apply scan_written hsound (by simp [hnonzero])
  convert hwritten using 1
  with_unfolding_all rfl

/-- Negative zero is not less than zero, but is written with a sign, which is an operator. -/
theorem scan_written_negative_zero : ¬ ∀ (ts : List Token) (source : String),
    (∀ t ∈ ts, t.IsSound) → Written ts source.toList →
      ∃ us, scan source = .ok us ∧ us.map Located.value = ts := by
  intro h
  have hamount : Token.IsAmount (-0.0) :=
    ⟨by with_unfolding_all rfl, by decide, by with_unfolding_all rfl⟩
  have hsound : ∀ t ∈ [.number (-0.0)], Token.IsSound t := by simp [Token.IsSound, hamount]
  have htext : (Token.number (-0.0)).text = "-0" := by with_unfolding_all rfl
  have hwritten : Written [.number (-0.0)] "-0".toList := by
    have hnumber := Written.cons (t := .number (-0.0)) .nil (.other (by simp)) Reading.ends_nil
      (.nil .nil)
    rwa [htext, List.append_nil] at hnumber
  have hscan : scan "-0" = .ok [⟨.minus, ⟨1, 1, 0, 1⟩⟩, ⟨.number 0, ⟨1, 2, 1, 2⟩⟩] := by
    with_unfolding_all rfl
  obtain ⟨us, hus, hvalues⟩ := h [.number (-0.0)] "-0" hsound hwritten
  rw [hscan] at hus
  cases hus
  cases hvalues

end ReleaseAudit
