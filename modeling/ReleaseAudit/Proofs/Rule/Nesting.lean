import ReleaseAudit.Proofs.Text.Words
import ReleaseAudit.Rule

/-!
# Parentheses in rules

A comma ends a validator, and a tilde begins a message, outside parentheses only. Both are found by
counting the open parentheses, so a text that leaves none open can be followed by anything without a
change to how it is read itself. Balanced texts do so, and by the same count they can be told from
others.
-/

namespace ReleaseAudit.Rule

variable {sep c : Char} {depth : Nat} {a b cs : List Char} {parts : List (List Char)}

/-! ## Open parentheses -/

theorem depthAfter_plain (hopen : c ≠ '(') (hclose : c ≠ ')') (depth : Nat) :
    depthAfter depth c = depth := by
  simp [depthAfter, hopen, hclose]

/-- The number of open parentheses behind a text that begins inside `depth` of them. -/
def openBehind (depth : Nat) (cs : List Char) : Nat := cs.foldl depthAfter depth

theorem openBehind_cons (depth : Nat) (c : Char) (cs : List Char) :
    openBehind depth (c :: cs) = openBehind (depthAfter depth c) cs := rfl

theorem openBehind_append (depth : Nat) (a b : List Char) :
    openBehind depth (a ++ b) = openBehind (openBehind depth a) b := List.foldl_append

/-- A text that begins inside `depth` parentheses holds no `sep` outside parentheses. -/
def Covers (sep : Char) : Nat → List Char → Prop
  | _, [] => True
  | depth, c :: cs => ¬ (c = sep ∧ depth = 0) ∧ Covers sep (depthAfter depth c) cs

instance decidableCovers (sep : Char) : ∀ depth cs, Decidable (Covers sep depth cs)
  | _, [] => .isTrue trivial
  | depth, c :: cs =>
    have := decidableCovers sep (depthAfter depth c) cs
    inferInstanceAs (Decidable (¬ (c = sep ∧ depth = 0) ∧ Covers sep (depthAfter depth c) cs))

theorem covers_append :
    Covers sep depth (a ++ b) ↔ Covers sep depth a ∧ Covers sep (openBehind depth a) b := by
  induction a generalizing depth with
  | nil => exact (and_iff_right trivial).symm
  | cons c a ih => rw [List.cons_append, Covers, Covers, ih, and_assoc, openBehind_cons]

theorem covers_of_notMem (h : sep ∉ cs) (depth : Nat) : Covers sep depth cs := by
  induction cs generalizing depth with
  | nil => trivial
  | cons c cs ih =>
    obtain ⟨hne, hrest⟩ := List.ne_and_not_mem_of_not_mem_cons h
    exact ⟨fun hc ↦ hne hc.1.symm, ih hrest _⟩

/-! ## Balanced texts -/

/-- Parentheses come in pairs, the opening one first. -/
inductive Balanced : List Char → Prop
  | nil : Balanced []
  | plain {c : Char} {rest : List Char} : c ≠ '(' → c ≠ ')' → Balanced rest → Balanced (c :: rest)
  | paren {inner rest : List Char} :
      Balanced inner → Balanced rest → Balanced ('(' :: (inner ++ ')' :: rest))

namespace Balanced

theorem of_notMem (hopen : '(' ∉ cs) (hclose : ')' ∉ cs) : Balanced cs := by
  induction cs with
  | nil => exact .nil
  | cons c cs ih =>
    obtain ⟨hc, hrest⟩ := List.ne_and_not_mem_of_not_mem_cons hopen
    obtain ⟨hc', hrest'⟩ := List.ne_and_not_mem_of_not_mem_cons hclose
    exact .plain hc.symm hc'.symm (ih hrest hrest')

theorem append (ha : Balanced a) (hb : Balanced b) : Balanced (a ++ b) := by
  induction ha with
  | nil => exact hb
  | plain hopen hclose _ ih => exact .plain hopen hclose ih
  | paren hinner _ _ ih =>
    rw [List.cons_append, List.append_assoc, List.cons_append]
    exact .paren hinner ih

theorem join (hsep : Balanced [sep]) (hparts : ∀ part ∈ parts, Balanced part) :
    Balanced (Text.join [sep] parts) := by
  induction parts with
  | nil => exact .nil
  | cons part parts ih =>
    obtain ⟨hpart, hrest⟩ := List.forall_mem_cons.1 hparts
    cases parts with
    | nil => simpa [Text.join_cons] using hpart
    | cons next parts =>
      rw [Text.join_cons_of_ne_nil _ _ (List.cons_ne_nil next parts)]
      exact hpart.append (hsep.append (ih hrest))

theorem openBehind_eq (h : Balanced cs) (depth : Nat) : openBehind depth cs = depth := by
  induction h generalizing depth with
  | nil => rfl
  | plain hopen hclose _ ih => rw [openBehind_cons, depthAfter_plain hopen hclose, ih]
  | paren _ _ hinner hrest =>
    rw [openBehind_cons, openBehind_append, openBehind_cons, hinner, hrest]
    rfl

theorem covers_pair {inner rest : List Char} (hinner : Balanced inner)
    (hfirst : ¬ ('(' = sep ∧ depth = 0)) (hinside : Covers sep (depth + 1) inner)
    (hrest : Covers sep depth rest) : Covers sep depth ('(' :: (inner ++ ')' :: rest)) := by
  have hbehind : openBehind (depthAfter depth '(') inner = depth + 1 := hinner.openBehind_eq _
  refine ⟨hfirst, covers_append.2 ⟨hinside, ?_⟩⟩
  rw [hbehind]
  exact ⟨fun hzero ↦ Nat.succ_ne_zero depth hzero.2, hrest⟩

/-- Inside parentheses a balanced text covers everything. -/
theorem covers (h : Balanced cs) (sep : Char) (depth : Nat) : Covers sep (depth + 1) cs := by
  have hinside (c : Char) (depth : Nat) : ¬ (c = sep ∧ depth + 1 = 0) :=
    fun hzero ↦ Nat.succ_ne_zero depth hzero.2
  induction h generalizing depth with
  | nil => trivial
  | plain hopen hclose _ ih =>
    refine ⟨hinside _ depth, ?_⟩
    rw [depthAfter_plain hopen hclose]
    exact ih depth
  | paren hinner _ ihInner ihRest =>
    exact covers_pair hinner (hinside _ depth) (ihInner (depth + 1)) (ihRest depth)

/-- A balanced text between parentheses covers everything but the first of them. -/
theorem covers_paren (h : Balanced cs) (hsep : sep ≠ '(') (depth : Nat) :
    Covers sep depth ('(' :: (cs ++ [')'])) :=
  covers_pair h (fun hfirst ↦ hsep hfirst.1.symm) (h.covers sep depth) trivial

/-- A balanced text closes no parenthesis that it has not opened. -/
theorem covers_close (h : Balanced cs) : Covers ')' 0 cs := by
  induction h with
  | nil => trivial
  | plain hopen hclose _ ih =>
    refine ⟨fun hfirst ↦ hclose hfirst.1, ?_⟩
    rw [depthAfter_plain hopen hclose]
    exact ih
  | paren hinner _ _ ih => exact covers_pair hinner (by decide) (hinner.covers ')' 0) ih

end Balanced

/-! ## Balance by counting -/

/-- All of `depth` open parentheses are closed, and none that was not open. -/
def Closes (depth : Nat) (cs : List Char) : Prop := Covers ')' depth cs ∧ openBehind depth cs = 0

instance decidableCloses (depth : Nat) (cs : List Char) : Decidable (Closes depth cs) :=
  inferInstanceAs (Decidable (_ ∧ _))

theorem closes_cons :
    Closes depth (c :: cs) ↔ ¬ (c = ')' ∧ depth = 0) ∧ Closes (depthAfter depth c) cs := and_assoc

/-- The innermost open parenthesis is closed behind a balanced text. -/
theorem Closes.exists_close {depth : Nat} {cs : List Char} (h : Closes (depth + 1) cs) :
    ∃ inner rest, Balanced inner ∧ cs = inner ++ ')' :: rest ∧ Closes depth rest := by
  cases cs with
  | nil => cases h.2
  | cons c cs =>
    obtain ⟨-, hrest⟩ := closes_cons.1 h
    by_cases hopen : c = '('
    · -- One more parenthesis is open: it is closed first, and the one in question in what is left.
      subst hopen
      have hrest : Closes (depth + 2) cs := hrest
      obtain ⟨inner, behind, hinner, rfl, hbehind⟩ := hrest.exists_close
      obtain ⟨next, rest, hnext, rfl, hlast⟩ := hbehind.exists_close
      exact ⟨'(' :: (inner ++ ')' :: next), rest, .paren hinner hnext, by simp, hlast⟩
    · by_cases hclose : c = ')'
      · subst hclose
        exact ⟨[], cs, .nil, rfl, hrest⟩
      · rw [depthAfter_plain hopen hclose] at hrest
        obtain ⟨inner, rest, hinner, rfl, hlast⟩ := hrest.exists_close
        exact ⟨c :: inner, rest, .plain hopen hclose hinner, rfl, hlast⟩
termination_by cs.length

theorem Closes.balanced {cs : List Char} (h : Closes 0 cs) : Balanced cs := by
  cases cs with
  | nil => exact .nil
  | cons c cs =>
    obtain ⟨hfirst, hrest⟩ := closes_cons.1 h
    by_cases hopen : c = '('
    · subst hopen
      have hrest : Closes 1 cs := hrest
      obtain ⟨inner, behind, hinner, rfl, hbehind⟩ := hrest.exists_close
      exact .paren hinner hbehind.balanced
    · have hclose : c ≠ ')' := fun hc ↦ hfirst ⟨hc, rfl⟩
      rw [depthAfter_plain hopen hclose] at hrest
      exact .plain hopen hclose hrest.balanced
termination_by cs.length

/-- Pairs can be found by counting: parentheses are balanced if none is closed that was not open and
none is left open. -/
theorem balanced_iff : Balanced cs ↔ Closes 0 cs := by
  constructor
  · exact fun h ↦ ⟨h.covers_close, h.openBehind_eq 0⟩
  · exact Closes.balanced

instance : DecidablePred Balanced := fun _ ↦ decidable_of_iff _ balanced_iff.symm

example : Balanced "(a(b))c()".toList ∧ ¬ Balanced ")(".toList := by decide

/-! ## Parts -/

theorem splitTopLevel_ne_nil (depth : Nat) (cs : List Char) : splitTopLevel depth cs ≠ [] := by
  cases cs with
  | nil => exact List.cons_ne_nil _ _
  | cons c cs =>
    rw [splitTopLevel]
    split
    · exact List.cons_ne_nil _ _
    · cases splitTopLevel (depthAfter depth c) cs <;> exact List.cons_ne_nil _ _

theorem splitTopLevel_comma (cs : List Char) :
    splitTopLevel 0 (',' :: cs) = [] :: splitTopLevel 0 cs := rfl

theorem splitTopLevel_cons (h : ¬ (c = ',' ∧ depth = 0)) :
    splitTopLevel depth (c :: cs) =
      (splitTopLevel (depthAfter depth c) cs).modifyHead (c :: ·) := by
  rw [splitTopLevel, if_neg (by simpa using h)]
  cases hsplit : splitTopLevel (depthAfter depth c) cs with
  | nil => exact absurd hsplit (splitTopLevel_ne_nil _ _)
  | cons part parts => rfl

/-- The comma behind a text that leaves no parenthesis open separates its parts from those that
follow. -/
theorem splitTopLevel_append (h : openBehind depth a = 0) (b : List Char) :
    splitTopLevel depth (a ++ ',' :: b) = splitTopLevel depth a ++ splitTopLevel 0 b := by
  induction a generalizing depth with
  | nil =>
    rw [show depth = 0 from h]
    rfl
  | cons c a ih =>
    rw [openBehind_cons] at h
    by_cases hcomma : c = ',' ∧ depth = 0
    · obtain ⟨rfl, rfl⟩ := hcomma
      have hrest : openBehind 0 a = 0 := h
      rw [List.cons_append, splitTopLevel_comma, splitTopLevel_comma, ih hrest, List.cons_append]
    · rw [List.cons_append, splitTopLevel_cons hcomma, splitTopLevel_cons hcomma, ih h]
      cases hsplit : splitTopLevel (depthAfter depth c) a with
      | nil => exact absurd hsplit (splitTopLevel_ne_nil _ _)
      | cons part parts => rfl

theorem splitTopLevel_eq_singleton (h : Covers ',' depth cs) : splitTopLevel depth cs = [cs] := by
  induction cs generalizing depth with
  | nil => rfl
  | cons c cs ih =>
    rw [splitTopLevel_cons h.1, ih h.2]
    rfl

/-- Parts without a comma of their own that leave no parenthesis open are found again. -/
theorem splitTopLevel_join (hne : parts ≠ [])
    (hparts : ∀ part ∈ parts, Covers ',' 0 part ∧ openBehind 0 part = 0) :
    splitTopLevel 0 (Text.join [','] parts) = parts := by
  induction parts with
  | nil => exact absurd rfl hne
  | cons part parts ih =>
    obtain ⟨⟨hcovers, hopen⟩, hrest⟩ := List.forall_mem_cons.1 hparts
    cases parts with
    | nil => simpa [Text.join_cons] using splitTopLevel_eq_singleton hcovers
    | cons next parts =>
      have hnext := List.cons_ne_nil next parts
      rw [Text.join_cons_of_ne_nil _ _ hnext, List.singleton_append, splitTopLevel_append hopen,
        splitTopLevel_eq_singleton hcovers, ih hnext hrest, List.singleton_append]

/-! ## Messages -/

theorem dropMessage_eq_self (h : Covers '~' depth cs) : dropMessage depth cs = cs := by
  induction cs generalizing depth with
  | nil => rfl
  | cons c cs ih => rw [dropMessage, if_neg (by simpa using h.1), ih h.2]

/-- The tilde behind a text that leaves no parenthesis open begins a message. -/
theorem dropMessage_append (hcovers : Covers '~' depth a) (hopen : openBehind depth a = 0)
    (b : List Char) : dropMessage depth (a ++ '~' :: b) = a := by
  induction a generalizing depth with
  | nil =>
    rw [show depth = 0 from hopen]
    rfl
  | cons c a ih =>
    rw [openBehind_cons] at hopen
    rw [List.cons_append, dropMessage, if_neg (by simpa using hcovers.1), ih hcovers.2 hopen]

/-! ## Rules -/

/-- The texts that are read as validators. -/
def validatorTexts (cs : List Char) : List (List Char) :=
  ((splitTopLevel 0 cs).map Text.trimChars).filter (!·.isEmpty)

theorem parse_eq_ok_iff {rule : String} {vs : List Validator} :
    parse rule = .ok vs ↔ (validatorTexts rule.toList).mapM readValidator = .ok vs ∧ vs ≠ [] := by
  have hparse : parse rule = (validatorTexts rule.toList).mapM readValidator >>= fun vs ↦
      if vs.isEmpty then .error .empty else .ok vs := rfl
  rw [hparse]
  cases (validatorTexts rule.toList).mapM readValidator with
  | error e => simp [bind, Except.bind]
  | ok ws =>
    cases ws with
    | nil => simp [bind, Except.bind]
    | cons w ws =>
      refine ⟨fun h ↦ ⟨h, ?_⟩, fun h ↦ h.1⟩
      rintro rfl
      cases h

end ReleaseAudit.Rule
