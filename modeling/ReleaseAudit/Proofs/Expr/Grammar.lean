import ReleaseAudit.Proofs.Expr.Reading

/-!
# The grammar of expressions

The grammar says which token sequences are expressions, and not how they are taken apart: it is
ambiguous, since the body of a closure may end in front of any operator. What is read is derived.
-/

namespace ReleaseAudit

/-- The nonterminals of the grammar. -/
inductive Phrase where
  | level (k : Precedence)
  | args
  | entries

/-- A token that names an entry of a map. -/
inductive MapKey : Token → Prop
  | name (n : String) : MapKey (.name n)
  | string (t : String) : MapKey (.string t)
  | number (x : Float) : MapKey (.number x)

theorem exists_mapKey?_iff {t : Token} : (∃ key, Parser.mapKey? t = some key) ↔ MapKey t := by
  constructor
  · rintro ⟨key, hkey⟩
    unfold Parser.mapKey? at hkey
    split at hkey
    · exact .name _
    · exact .string _
    · exact .number _
    · cases hkey
  · rintro (n | t | x) <;> exact ⟨_, rfl⟩

/-- The token sequences that are derived from a nonterminal. With the levels named by what they add
to the level below,
```
conditional    := disjunctive ("?" conditional ":" conditional)?
disjunctive    := conjunctive ("or" conjunctive)*
conjunctive    := comparative ("and" comparative)*
comparative    := additive (comparison additive)?
additive       := multiplicative (("+" | "-") multiplicative)*
multiplicative := unary (("*" | "/" | "%") unary)*
unary          := ("not" | "-") unary | suffixed
suffixed       := primary ("." name ("(" args ")")? | "(" args ")" | "[" conditional "]")*
primary        := literal | name | name "=>" conditional | "[" args "]" | "{" entries "}"
                | "(" conditional ")"
args           := (conditional ("," args)?)?
entries        := (key ":" conditional ("," entries)?)?
```
-/
inductive Derives : Phrase → List Token → Prop
  | next {k : Precedence} {w : List Token} : k ≠ .primary → Derives (.level k.next) w →
      Derives (.level k) w
  | conditional {c t f : List Token} : Derives (.level .disjunctive) c →
      Derives (.level .conditional) t → Derives (.level .conditional) f →
      Derives (.level .conditional) (c ++ .question :: (t ++ .colon :: f))
  | binary {op : BinaryOp} {l r : List Token} : op.precedence ≠ .comparative →
      Derives (.level op.precedence) l → Derives (.level op.precedence.next) r →
      Derives (.level op.precedence) (l ++ (op.tokens ++ r))
  | comparison {op : BinaryOp} {l r : List Token} : op.precedence = .comparative →
      Derives (.level .additive) l → Derives (.level .additive) r →
      Derives (.level .comparative) (l ++ (op.tokens ++ r))
  | unary {op : UnaryOp} {w : List Token} : Derives (.level .unary) w →
      Derives (.level .unary) (op.token :: w)
  | property {w : List Token} {n : String} : Derives (.level .suffixed) w →
      Derives (.level .suffixed) (w ++ [.dot, .name n])
  | method {w a : List Token} {n : String} : Derives (.level .suffixed) w → Derives .args a →
      Derives (.level .suffixed) (w ++ .dot :: .name n :: .leftParen :: (a ++ [.rightParen]))
  | call {w a : List Token} : Derives (.level .suffixed) w → Derives .args a →
      Derives (.level .suffixed) (w ++ .leftParen :: (a ++ [.rightParen]))
  | index {w i : List Token} : Derives (.level .suffixed) w → Derives (.level .conditional) i →
      Derives (.level .suffixed) (w ++ .leftBracket :: (i ++ [.rightBracket]))
  | literal {t : Token} {e : Expr} : Literal t e → Derives (.level .primary) [t]
  | name {n : String} : Derives (.level .primary) [.name n]
  | closure {n : String} {w : List Token} : Derives (.level .conditional) w →
      Derives (.level .primary) (.name n :: .arrow :: w)
  | list {a : List Token} : Derives .args a →
      Derives (.level .primary) (.leftBracket :: (a ++ [.rightBracket]))
  | map {a : List Token} : Derives .entries a →
      Derives (.level .primary) (.leftBrace :: (a ++ [.rightBrace]))
  | paren {w : List Token} : Derives (.level .conditional) w →
      Derives (.level .primary) (.leftParen :: (w ++ [.rightParen]))
  | noArg : Derives .args []
  | lastArg {w : List Token} : Derives (.level .conditional) w → Derives .args w
  | arg {w a : List Token} : Derives (.level .conditional) w → Derives .args a →
      Derives .args (w ++ .comma :: a)
  | noEntry : Derives .entries []
  | lastEntry {t : Token} {w : List Token} : MapKey t →
      Derives (.level .conditional) w → Derives .entries (t :: .colon :: w)
  | entry {t : Token} {w a : List Token} : MapKey t →
      Derives (.level .conditional) w → Derives .entries a →
      Derives .entries (t :: .colon :: (w ++ .comma :: a))

/-- What may stand to the left of the tokens that continue a phrase of the level. -/
def Leads (k : Precedence) (w : List Token) : Prop :=
  Derives (.level k.next) w ∨ k.repeats ∧ Derives (.level k) w

theorem Leads.derives {k : Precedence} {w : List Token} (hk : k ≠ .primary) (h : Leads k w) :
    Derives (.level k) w := by
  rcases h with hnext | ⟨_, hsame⟩
  · exact .next hk hnext
  · exact hsame

/-- What is read for a goal, and how it derives. -/
def Derivable (ts rest : List Token) : Goal → Prop
  | .phrase k _ => ∃ w, ts = w ++ rest ∧ Derives (.level k) w
  | .tail k _ _ => k ≠ .primary → ∃ w, ts = w ++ rest ∧ ∀ l, Leads k l → Derives (.level k) (l ++ w)
  | .items close _ => ∃ w, ts = w ++ close :: rest ∧ Derives .args w
  | .entries _ => ∃ w, ts = w ++ .rightBrace :: rest ∧ Derives .entries w

theorem Reads.derivable {goal : Goal} {ts rest : List Token} (h : Reads goal ts rest) :
    Derivable ts rest goal := by
  induction h with
  | climb hk _ _ ihphrase ihtail =>
    obtain ⟨l, rfl, hl⟩ := ihphrase
    obtain ⟨w, rfl, hw⟩ := ihtail hk
    exact ⟨l ++ w, (List.append_assoc ..).symm, hw l (Or.inl hl)⟩
  | unary _ _ ih =>
    obtain ⟨w, rfl, hw⟩ := ih
    exact ⟨_, rfl, .unary hw⟩
  | stop _ =>
    intro hk
    refine ⟨[], rfl, fun l hl ↦ ?_⟩
    rw [List.append_nil]
    exact hl.derives hk
  | @binary op _ _ _ _ _ _ _ hop _ _ ihright ihtail =>
    intro hk
    obtain ⟨r, rfl, hr⟩ := ihright
    obtain ⟨w, rfl, hw⟩ := ihtail hk
    refine ⟨op.tokens ++ r ++ w, by simp, fun l hl ↦ ?_⟩
    have hjoined := hw _ (Or.inr ⟨BinaryOp.precedence_repeats hop, .binary hop (hl.derives hk) hr⟩)
    simpa using hjoined
  | comparison _ hop _ ih =>
    intro _
    obtain ⟨r, rfl, hr⟩ := ih
    refine ⟨_, (List.append_assoc ..).symm, fun l hl ↦ ?_⟩
    have hleft : Derives (.level .additive) l := hl.resolve_right fun h ↦ absurd h.1 (by decide)
    exact .comparison hop hleft hr
  | conditional _ _ _ ihtrue ihfalse =>
    intro _
    obtain ⟨t, rfl, ht⟩ := ihtrue
    obtain ⟨f, rfl, hf⟩ := ihfalse
    refine ⟨.question :: (t ++ .colon :: f), by simp, fun l hl ↦ ?_⟩
    have hcondition : Derives (.level .disjunctive) l :=
      hl.resolve_right fun h ↦ absurd h.1 (by decide)
    exact .conditional hcondition ht hf
  | @property _ _ n _ _ _ _ _ ih =>
    intro hk
    obtain ⟨w, rfl, hw⟩ := ih hk
    refine ⟨.dot :: .name n :: w, rfl, fun l hl ↦ ?_⟩
    simpa using hw _ (Or.inr ⟨rfl, .property (hl.derives hk)⟩)
  | @method _ _ n _ _ _ _ _ _ _ ihargs ihtail =>
    intro hk
    obtain ⟨a, rfl, ha⟩ := ihargs
    obtain ⟨w, rfl, hw⟩ := ihtail hk
    refine ⟨.dot :: .name n :: .leftParen :: (a ++ .rightParen :: w), by simp, fun l hl ↦ ?_⟩
    simpa using hw _ (Or.inr ⟨rfl, .method (hl.derives hk) ha⟩)
  | call _ _ _ ihargs ihtail =>
    intro hk
    obtain ⟨a, rfl, ha⟩ := ihargs
    obtain ⟨w, rfl, hw⟩ := ihtail hk
    refine ⟨.leftParen :: (a ++ .rightParen :: w), by simp, fun l hl ↦ ?_⟩
    simpa using hw _ (Or.inr ⟨rfl, .call (hl.derives hk) ha⟩)
  | index _ _ _ ihkey ihtail =>
    intro hk
    obtain ⟨i, rfl, hi⟩ := ihkey
    obtain ⟨w, rfl, hw⟩ := ihtail hk
    refine ⟨.leftBracket :: (i ++ .rightBracket :: w), by simp, fun l hl ↦ ?_⟩
    simpa using hw _ (Or.inr ⟨rfl, .index (hl.derives hk) hi⟩)
  | literal ht => exact ⟨_, rfl, .literal ht⟩
  | name _ _ => exact ⟨_, rfl, .name⟩
  | closure _ _ ih =>
    obtain ⟨w, rfl, hw⟩ := ih
    exact ⟨_, rfl, .closure hw⟩
  | list _ _ ih =>
    obtain ⟨w, rfl, hw⟩ := ih
    exact ⟨_, by simp, .list hw⟩
  | map _ _ ih =>
    obtain ⟨w, rfl, hw⟩ := ih
    exact ⟨_, by simp, .map hw⟩
  | paren _ ih =>
    obtain ⟨w, rfl, hw⟩ := ih
    exact ⟨_, by simp, .paren hw⟩
  | noItem => exact ⟨[], rfl, .noArg⟩
  | lastItem _ ih =>
    obtain ⟨w, rfl, hw⟩ := ih
    exact ⟨w, rfl, .lastArg hw⟩
  | item _ _ ihfirst ihmore =>
    obtain ⟨w, rfl, hw⟩ := ihfirst
    obtain ⟨a, rfl, ha⟩ := ihmore
    exact ⟨_, by simp, .arg hw ha⟩
  | noEntry => exact ⟨[], rfl, .noEntry⟩
  | lastEntry hkey _ ih =>
    obtain ⟨w, rfl, hw⟩ := ih
    exact ⟨_, rfl, .lastEntry (exists_mapKey?_iff.1 ⟨_, hkey⟩) hw⟩
  | entry hkey _ _ ihfirst ihmore =>
    obtain ⟨w, rfl, hw⟩ := ihfirst
    obtain ⟨a, rfl, ha⟩ := ihmore
    exact ⟨_, by simp, .entry (exists_mapKey?_iff.1 ⟨_, hkey⟩) hw ha⟩

theorem Derives.length_pos {phrase : Phrase} {w : List Token} (h : Derives phrase w)
    {k : Precedence} (hphrase : phrase = .level k) : 0 < w.length := by
  induction h generalizing k with
  | next _ _ ih => exact ih rfl
  | noArg | lastArg | arg | noEntry | lastEntry | entry => cases hphrase
  | binary _ _ _ ih => exact Nat.lt_of_lt_of_le (ih rfl) (by simp)
  | comparison _ _ _ ih => exact Nat.lt_of_lt_of_le (ih rfl) (by simp)
  | _ =>
    simp only [List.length_append, List.length_cons]
    omega

theorem Reads.length_lt {k : Precedence} {e : Expr} {ts rest : List Token}
    (h : Reads (.phrase k e) ts rest) : rest.length < ts.length := by
  obtain ⟨w, rfl, hw⟩ := h.derivable
  have hpos := hw.length_pos rfl
  rw [List.length_append]
  omega

end ReleaseAudit
