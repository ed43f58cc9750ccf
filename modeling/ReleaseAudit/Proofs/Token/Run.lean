import ReleaseAudit.Proofs.Token.Gap
import ReleaseAudit.Proofs.Token.Position

/-!
# Scanning a whole text

Scanning takes one gap or one lexeme after the other. What is found in a text does not depend on the
place where the text begins, apart from the spans. A scan that fails stops at the first character that
begins neither of them.
-/

namespace ReleaseAudit

variable {p : Position} {c : Char} {w k rest cs : List Char} {t : Token} {ts : Tokens} {e : ScanError}

theorem scanFrom_gap (h : Reading.of c (w ++ k) = .gap (w.length + 1)) :
    scanFrom p (c :: w ++ k) = scanFrom (p.advanceAll (c :: w)) k := by
  rw [List.cons_append, scanFrom]
  simp [h]

theorem scanFrom_token (h : Reading.of c (w ++ k) = .token t (w.length + 1)) :
    scanFrom p (c :: w ++ k) =
      (scanFrom (p.advanceAll (c :: w)) k).map
        (⟨t, .between p (p.advanceAll (c :: w))⟩ :: ·) := by
  rw [List.cons_append, scanFrom]
  simp [h]

/-- A scan that finds the tokens of a text, step by step. -/
inductive Scans : Position → List Char → Tokens → Prop
  | done {p : Position} : Scans p [] []
  | gap {p : Position} {c : Char} {w k : List Char} {ts : Tokens} :
      Reading.of c (w ++ k) = .gap (w.length + 1) → Scans (p.advanceAll (c :: w)) k ts →
      Scans p (c :: w ++ k) ts
  | token {p : Position} {c : Char} {w k : List Char} {t : Token} {ts : Tokens} :
      Reading.of c (w ++ k) = .token t (w.length + 1) → Scans (p.advanceAll (c :: w)) k ts →
      Scans p (c :: w ++ k) (⟨t, .between p (p.advanceAll (c :: w))⟩ :: ts)

theorem Scans.scanFrom_eq (h : Scans p cs ts) : scanFrom p cs = .ok ts := by
  induction h with
  | done => rw [scanFrom]
  | gap hgap _ ih => rw [scanFrom_gap hgap, ih]
  | token htoken _ ih =>
    rw [scanFrom_token htoken, ih]
    rfl

theorem exists_of_gap {rest : List Char} {n : Nat} (h : Reading.of c rest = .gap n) :
    ∃ w k, rest = w ++ k ∧ n = w.length + 1 := by
  rcases Reading.of_eq_gap_iff.1 h with ⟨_, rfl⟩ | ⟨w, k, hcs, rfl, hcomment⟩
  · exact ⟨[], rest, rfl, rfl⟩
  · obtain ⟨d, w, rfl⟩ := hcomment.exists_cons
    cases hcs
    exact ⟨w, k, rfl, rfl⟩

theorem scans_of_scanFrom (h : scanFrom p cs = .ok ts) : Scans p cs ts := by
  induction p, cs using scanFrom.induct generalizing ts with
  | case1 =>
    rw [scanFrom] at h
    cases h
    exact .done
  | case2 p c rest n hof ih =>
    obtain ⟨w, k, rfl, rfl⟩ := exists_of_gap hof
    have hrest {us : Tokens} :
        scanFrom (p.advanceAll (c :: w)) k = .ok us → Scans (p.advanceAll (c :: w)) k us := by
      simpa using @ih (w.length + 1) us
    rw [← List.cons_append, scanFrom_gap hof] at h
    exact .gap hof (hrest h)
  | case3 p c rest t n hof ih =>
    obtain ⟨w, k, rfl, rfl, -⟩ := (Reading.lexeme_of_token hof).alone
    have hrest {us : Tokens} :
        scanFrom (p.advanceAll (c :: w)) k = .ok us → Scans (p.advanceAll (c :: w)) k us := by
      simpa using @ih (w.length + 1) us
    rw [← List.cons_append, scanFrom_token hof] at h
    cases hk : scanFrom (p.advanceAll (c :: w)) k with
    | error e => simp [hk, Except.map] at h
    | ok us =>
      rw [hk] at h
      cases h
      exact .token hof (hrest hk)
  | case4 p c rest whole hof | case5 p c rest n hof | case6 p c rest text n hof
  | case7 p c rest hof =>
    rw [scanFrom] at h
    simp [hof] at h

/-! ## Scans that fail -/

/-- What stands at `p` is neither skipped nor a token, and the scan ends there with the error. -/
inductive Refuses (p : Position) (c : Char) (rest : List Char) : ScanError → Prop
  | stray : Reading.of c rest = .stray → Refuses p c rest (.stray c (.firstByte p))
  | incomplete {whole : String} : Reading.of c rest = .incomplete whole →
      Refuses p c rest (.incomplete c whole (.between p (p.advanceAll ((c :: rest).take 1))))
  | unterminatedString {n : Nat} : Reading.of c rest = .unterminatedString n →
      Refuses p c rest (.unterminatedString (.between p (p.advanceAll ((c :: rest).take n))))
  | malformedNumber {text : String} {n : Nat} : Reading.of c rest = .malformedNumber text n →
      Refuses p c rest (.malformedNumber text (.between p (p.advanceAll ((c :: rest).take n))))

theorem Refuses.ne_gap (h : Refuses p c rest e) (n : Nat) : Reading.of c rest ≠ .gap n := by
  cases h with
  | stray hof | incomplete hof | unterminatedString hof | malformedNumber hof => simp [hof]

theorem taken_append (c : Char) (rest : List Char) (n : Nat) :
    (c :: rest).take (n - 1 + 1) ++ rest.drop (n - 1) = c :: rest := by
  rw [List.take_succ_cons, List.cons_append, List.take_append_drop]

theorem exists_refuses_append
    (h : ∃ v d ds, cs = v ++ d :: ds ∧ Refuses ((p.advanceAll w).advanceAll v) d ds e) :
    ∃ v d ds, w ++ cs = v ++ d :: ds ∧ Refuses (p.advanceAll v) d ds e := by
  obtain ⟨v, d, ds, rfl, hrefuses⟩ := h
  rw [← Position.advanceAll_append] at hrefuses
  exact ⟨w ++ v, d, ds, (List.append_assoc w v _).symm, hrefuses⟩

/-- A scan that fails does so at a character of the text. -/
theorem exists_refuses_of_scanFrom (h : scanFrom p cs = .error e) :
    ∃ v d ds, cs = v ++ d :: ds ∧ Refuses (p.advanceAll v) d ds e := by
  induction p, cs using scanFrom.induct with
  | case1 =>
    rw [scanFrom] at h
    cases h
  | case2 p c rest n hof ih =>
    rw [scanFrom] at h
    simp only [hof] at h
    rw [← taken_append c rest n]
    exact exists_refuses_append (ih n h)
  | case3 p c rest t n hof ih =>
    rw [scanFrom] at h
    simp only [hof] at h
    rw [← taken_append c rest n]
    cases hrest : scanFrom (p.advanceAll ((c :: rest).take (n - 1 + 1))) (rest.drop (n - 1)) with
    | ok ts =>
      rw [hrest] at h
      cases h
    | error e' =>
      rw [hrest] at h
      cases h
      exact exists_refuses_append (ih n hrest)
  | case4 p c rest whole hof | case5 p c rest n hof | case6 p c rest text n hof
  | case7 p c rest hof =>
    rw [scanFrom] at h
    simp only [hof] at h
    cases h
    refine ⟨[], c, rest, rfl, ?_⟩
    constructor
    exact hof

end ReleaseAudit
