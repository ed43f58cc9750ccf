import Mathlib.Order.Lattice
import Mathlib.Order.Nat
import ReleaseAudit.Expr.Parse

/-!
# Reading tokens

What the parser does, without the places of tokens: a relation between an expression, the tokens
that it is read from and the tokens behind it. Operators are read at their precedence, and a phrase
ends where the tokens behind it do not continue it.
-/

namespace ReleaseAudit

/-- The levels of an expression, from loose to tight. -/
inductive Precedence where
  | conditional | disjunctive | conjunctive | comparative | additive | multiplicative
  | unary | suffixed | primary
deriving DecidableEq, Repr

namespace Precedence

def rank : Precedence → Nat
  | conditional => 0
  | disjunctive => 1
  | conjunctive => 2
  | comparative => 3
  | additive => 4
  | multiplicative => 5
  | unary => 6
  | suffixed => 7
  | primary => 8

theorem rank_injective : Function.Injective rank := by
  intro a b h
  cases a <;> cases b <;> first | rfl | cases h

instance : LinearOrder Precedence := LinearOrder.lift' rank rank_injective

/-- The level of the operands. -/
def next : Precedence → Precedence
  | conditional => disjunctive
  | disjunctive => conjunctive
  | conjunctive => comparative
  | comparative => additive
  | additive => multiplicative
  | multiplicative => unary
  | unary => suffixed
  | suffixed => primary
  | primary => primary

/-- Whether a phrase of the level may be continued on the same level. -/
def repeats : Precedence → Bool
  | disjunctive | conjunctive | additive | multiplicative | suffixed => true
  | conditional | comparative | unary | primary => false

theorem le_next (k : Precedence) : k ≤ k.next := by cases k <;> decide

end Precedence

namespace BinaryOp

def precedence : BinaryOp → Precedence
  | or => .disjunctive
  | and => .conjunctive
  | add | sub => .additive
  | mul | div | mod => .multiplicative
  | eq | ne | lt | le | gt | ge | .in | notIn | contains | startsWith | endsWith | «matches» =>
    .comparative

def tokens : BinaryOp → List Token
  | add => [.plus]
  | sub => [.minus]
  | mul => [.star]
  | div => [.slash]
  | mod => [.percent]
  | eq => [.eq]
  | ne => [.ne]
  | lt => [.lt]
  | le => [.le]
  | gt => [.gt]
  | ge => [.ge]
  | and => [.andKey]
  | or => [.orKey]
  | .in => [.inKey]
  | notIn => [.notKey, .inKey]
  | contains => [.name "contains"]
  | startsWith => [.name "startsWith"]
  | endsWith => [.name "endsWith"]
  | «matches» => [.name "matches"]

theorem precedence_lt (op : BinaryOp) : op.precedence < .unary := by cases op <;> decide

theorem precedence_repeats {op : BinaryOp} (hop : op.precedence ≠ .comparative) :
    op.precedence.repeats := by
  cases op <;> first | rfl | exact absurd rfl hop

theorem tokens_length_pos (op : BinaryOp) : 0 < op.tokens.length := by cases op <;> decide

end BinaryOp

namespace UnaryOp

def token : UnaryOp → Token
  | not => .notKey
  | minus => .minus

end UnaryOp

namespace Token

/-- The tokens that separate or close parts of an expression. -/
def Inner (t : Token) : Prop := t ∈ [rightParen, rightBracket, rightBrace, comma, colon]

theorem Inner.beq_iff {t u : Token} (ht : t.Inner) : (u == t) = true ↔ u = t := by
  simp only [Inner, List.mem_cons, List.not_mem_nil, or_false] at ht
  rcases ht with rfl | rfl | rfl | rfl | rfl <;> cases u <;>
    first | exact iff_of_true rfl rfl | exact iff_of_false Bool.false_ne_true nofun

/-- The tokens that close a list. -/
def Closing (t : Token) : Prop := t ∈ [rightParen, rightBracket]

theorem Closing.inner {t : Token} (ht : t.Closing) : t.Inner := by
  simp only [Closing, List.mem_cons, List.not_mem_nil, or_false] at ht
  rcases ht with rfl | rfl <;> simp [Inner]

theorem Closing.ne_comma {t : Token} (ht : t.Closing) : t ≠ comma := by
  rintro rfl
  simp [Closing] at ht

end Token

/-- The level of the phrases that the tokens continue, if they can follow a phrase inside of an
expression at all. -/
@[grind =]
def continues : List Token → Option Precedence
  | .question :: _ => some .conditional
  | .orKey :: _ => some .disjunctive
  | .andKey :: _ => some .conjunctive
  | .eq :: _ | .ne :: _ | .lt :: _ | .le :: _ | .gt :: _ | .ge :: _ | .inKey :: _
  | .notKey :: .inKey :: _ => some .comparative
  | .name word :: _ =>
    if word ∈ ["contains", "startsWith", "endsWith", "matches"] then some .comparative else none
  | .plus :: _ | .minus :: _ => some .additive
  | .star :: _ | .slash :: _ | .percent :: _ => some .multiplicative
  | .dot :: _ | .leftParen :: _ | .leftBracket :: _ => some .suffixed
  | .arrow :: _ => some .primary
  | _ => none

@[simp] theorem continues_tokens (op : BinaryOp) (ts : List Token) :
    continues (op.tokens ++ ts) = some op.precedence := by
  cases op <;> simp [BinaryOp.tokens, BinaryOp.precedence, continues]

theorem Token.Closing.continues_eq {t : Token} (ht : t.Closing) {ts : List Token} :
    continues (t :: ts) = none := by
  simp only [Token.Closing, List.mem_cons, List.not_mem_nil, or_false] at ht
  rcases ht with rfl | rfl <;> rfl

/-- An operator stands in front of the tokens that continue an operand. -/
theorem exists_op_of_continues {k : Precedence} {ts : List Token} (h : continues ts = some k)
    (hconditional : k ≠ .conditional) (hsuffixed : k < .suffixed) :
    ∃ (op : BinaryOp) (w : List Token), op.precedence = k ∧ ts = op.tokens ++ w := by
  unfold continues at h
  split at h <;> try cases h
  case h_2 => exact ⟨.or, _, rfl, rfl⟩
  case h_3 => exact ⟨.and, _, rfl, rfl⟩
  case h_4 => exact ⟨.eq, _, rfl, rfl⟩
  case h_5 => exact ⟨.ne, _, rfl, rfl⟩
  case h_6 => exact ⟨.lt, _, rfl, rfl⟩
  case h_7 => exact ⟨.le, _, rfl, rfl⟩
  case h_8 => exact ⟨.gt, _, rfl, rfl⟩
  case h_9 => exact ⟨.ge, _, rfl, rfl⟩
  case h_10 => exact ⟨.in, _, rfl, rfl⟩
  case h_11 => exact ⟨.notIn, _, rfl, rfl⟩
  case h_13 => exact ⟨.add, _, rfl, rfl⟩
  case h_14 => exact ⟨.sub, _, rfl, rfl⟩
  case h_15 => exact ⟨.mul, _, rfl, rfl⟩
  case h_16 => exact ⟨.div, _, rfl, rfl⟩
  case h_17 => exact ⟨.mod, _, rfl, rfl⟩
  case h_12 word w =>
    split at h
    case isFalse => cases h
    case isTrue hword =>
      cases h
      simp only [List.mem_cons, List.not_mem_nil, or_false] at hword
      rcases hword with rfl | rfl | rfl | rfl
      · exact ⟨.contains, w, rfl, rfl⟩
      · exact ⟨.startsWith, w, rfl, rfl⟩
      · exact ⟨.endsWith, w, rfl, rfl⟩
      · exact ⟨.matches, w, rfl, rfl⟩
  all_goals first | exact absurd rfl hconditional | exact absurd hsuffixed (by decide)

theorem exists_question_of_continues {ts : List Token} (h : continues ts = some .conditional) :
    ∃ w, ts = .question :: w := by
  unfold continues at h
  split at h
  case h_1 w => exact ⟨w, rfl⟩
  all_goals first | cases h | split at h <;> cases h

theorem exists_suffix_of_continues {ts : List Token} (h : continues ts = some .suffixed) :
    ∃ t w, ts = t :: w ∧ t ∈ [Token.dot, .leftParen, .leftBracket] := by
  unfold continues at h
  split at h
  case h_18 w => exact ⟨.dot, w, rfl, by simp⟩
  case h_19 w => exact ⟨.leftParen, w, rfl, by simp⟩
  case h_20 w => exact ⟨.leftBracket, w, rfl, by simp⟩
  all_goals first | cases h | split at h <;> cases h

theorem continues_ne_unary {ts : List Token} : continues ts ≠ some .unary := by
  intro h
  unfold continues at h
  split at h
  all_goals first | cases h | split at h <;> cases h

/-- A single token that is an expression of its own. -/
inductive Literal : Token → Expr → Prop
  | true (s : Span) : Literal .trueKey (.bool s true)
  | false (s : Span) : Literal .falseKey (.bool s false)
  | null (s : Span) : Literal .nullKey (.null s)
  | number (s : Span) (x : Float) : Literal (.number x) (.number s x)
  | string (s : Span) (t : String) : Literal (.string t) (.string s t)

/-- What is read: a phrase of a level, what follows a phrase on its level and the phrase that it
makes with it, or what stands between brackets or braces. -/
inductive Goal where
  | phrase (k : Precedence) (e : Expr)
  | tail (k : Precedence) (left e : Expr)
  | items (close : Token) (es : List Expr)
  | entries (es : List (String × Expr))

/-- A goal is read from tokens and leaves the tokens behind it. Spans may be anything. -/
inductive Reads : Goal → List Token → List Token → Prop
  | climb {k : Precedence} {l e : Expr} {ts mid rest : List Token} : k ≠ .primary →
      Reads (.phrase k.next l) ts mid → Reads (.tail k l e) mid rest → Reads (.phrase k e) ts rest
  | unary {op : UnaryOp} {e : Expr} {ts rest : List Token} (s : Span) :
      Reads (.phrase .unary e) ts rest → Reads (.phrase .unary (.unary s op e)) (op.token :: ts) rest
  | stop {k : Precedence} {e : Expr} {ts : List Token} : continues ts ≠ some k →
      Reads (.tail k e e) ts ts
  | binary {op : BinaryOp} {l r e : Expr} {ts mid rest : List Token} (s : Span) :
      op.precedence ≠ .comparative → Reads (.phrase op.precedence.next r) ts mid →
      Reads (.tail op.precedence (.binary s op l r) e) mid rest →
      Reads (.tail op.precedence l e) (op.tokens ++ ts) rest
  | comparison {op : BinaryOp} {l r : Expr} {ts rest : List Token} (s : Span) :
      op.precedence = .comparative → Reads (.phrase .additive r) ts rest →
      Reads (.tail .comparative l (.binary s op l r)) (op.tokens ++ ts) rest
  | conditional {c t f : Expr} {ts mid rest : List Token} (s : Span) :
      Reads (.phrase .conditional t) ts (.colon :: mid) → Reads (.phrase .conditional f) mid rest →
      Reads (.tail .conditional c (.conditional s c t f)) (.question :: ts) rest
  | property {e whole : Expr} {n : String} {ts rest : List Token} (s : Span) :
      ts.head? ≠ some .leftParen → Reads (.tail .suffixed (.property s e n) whole) ts rest →
      Reads (.tail .suffixed e whole) (.dot :: .name n :: ts) rest
  | method {e whole : Expr} {n : String} {args : List Expr} {ts mid rest : List Token} (s : Span) :
      Reads (.items .rightParen args) ts mid →
      Reads (.tail .suffixed (.method s e n args) whole) mid rest →
      Reads (.tail .suffixed e whole) (.dot :: .name n :: .leftParen :: ts) rest
  | call {e whole : Expr} {args : List Expr} {ts mid rest : List Token} (s : Span) :
      Reads (.items .rightParen args) ts mid →
      Reads (.tail .suffixed (.call s e args) whole) mid rest →
      Reads (.tail .suffixed e whole) (.leftParen :: ts) rest
  | index {e key whole : Expr} {ts mid rest : List Token} (s : Span) :
      Reads (.phrase .conditional key) ts (.rightBracket :: mid) →
      Reads (.tail .suffixed (.index s e key) whole) mid rest →
      Reads (.tail .suffixed e whole) (.leftBracket :: ts) rest
  | literal {t : Token} {e : Expr} {ts : List Token} : Literal t e →
      Reads (.phrase .primary e) (t :: ts) ts
  | name {n : String} {ts : List Token} (s : Span) : ts.head? ≠ some .arrow →
      Reads (.phrase .primary (.name s n)) (.name n :: ts) ts
  | closure {n : String} {body : Expr} {ts rest : List Token} (s : Span) :
      Reads (.phrase .conditional body) ts rest →
      Reads (.phrase .primary (.closure s n body)) (.name n :: .arrow :: ts) rest
  | list {es : List Expr} {ts rest : List Token} (s : Span) :
      Reads (.items .rightBracket es) ts rest →
      Reads (.phrase .primary (.list s es)) (.leftBracket :: ts) rest
  | map {es : List (String × Expr)} {ts rest : List Token} (s : Span) :
      Reads (.entries es) ts rest →
      Reads (.phrase .primary (.map s es)) (.leftBrace :: ts) rest
  | paren {e : Expr} {ts rest : List Token} :
      Reads (.phrase .conditional e) ts (.rightParen :: rest) →
      Reads (.phrase .primary e) (.leftParen :: ts) rest
  | noItem {close : Token} {ts : List Token} : Reads (.items close []) (close :: ts) ts
  | lastItem {close : Token} {e : Expr} {ts rest : List Token} :
      Reads (.phrase .conditional e) ts (close :: rest) → Reads (.items close [e]) ts rest
  | item {close : Token} {e : Expr} {es : List Expr} {ts mid rest : List Token} :
      Reads (.phrase .conditional e) ts (.comma :: mid) → Reads (.items close es) mid rest →
      Reads (.items close (e :: es)) ts rest
  | noEntry {ts : List Token} : Reads (.entries []) (.rightBrace :: ts) ts
  | lastEntry {t : Token} {key : String} {e : Expr} {ts rest : List Token} :
      Parser.mapKey? t = some key → Reads (.phrase .conditional e) ts (.rightBrace :: rest) →
      Reads (.entries [(key, e)]) (t :: .colon :: ts) rest
  | entry {t : Token} {key : String} {e : Expr} {es : List (String × Expr)}
      {ts mid rest : List Token} :
      Parser.mapKey? t = some key → Reads (.phrase .conditional e) ts (.comma :: mid) →
      Reads (.entries es) mid rest → Reads (.entries ((key, e) :: es)) (t :: .colon :: ts) rest

theorem UnaryOp.ne_token {t : Token} (ht : Parser.unaryOp? t = none) (op : UnaryOp) :
    t ≠ op.token := by
  rintro rfl
  cases op <;> cases ht

/-- No phrase begins with a token that separates or closes, and only an operation with a single
operand begins with its operator. -/
theorem Reads.head {goal : Goal} {ts rest : List Token} (h : Reads goal ts rest) {k : Precedence}
    {e : Expr} (hgoal : goal = .phrase k e) :
    ∃ t more, ts = t :: more ∧ ¬ t.Inner ∧ (.suffixed ≤ k → ∀ op : UnaryOp, t ≠ op.token) := by
  induction h generalizing k e with
  | climb hk _ _ ih _ =>
    cases hgoal
    obtain ⟨t, more, rfl, hinner, hop⟩ := ih rfl
    exact ⟨t, more, rfl, hinner, fun hle ↦ hop (hle.trans (Precedence.le_next _))⟩
  | @unary op _ ts _ _ _ _ =>
    cases hgoal
    exact ⟨op.token, ts, rfl, by cases op <;> simp [UnaryOp.token, Token.Inner],
      fun hle ↦ absurd hle (by decide)⟩
  | @literal t _ ts ht =>
    cases hgoal
    refine ⟨t, ts, rfl, ?_, fun _ ↦ UnaryOp.ne_token ?_⟩
    · cases ht <;> simp [Token.Inner]
    · cases ht <;> rfl
  | @name n ts _ _ =>
    cases hgoal
    exact ⟨.name n, ts, rfl, by simp [Token.Inner], fun _ ↦ UnaryOp.ne_token rfl⟩
  | @closure n _ ts _ _ _ _ =>
    cases hgoal
    exact ⟨.name n, _, rfl, by simp [Token.Inner], fun _ ↦ UnaryOp.ne_token rfl⟩
  | @list _ ts _ _ _ _ =>
    cases hgoal
    exact ⟨.leftBracket, ts, rfl, by simp [Token.Inner], fun _ ↦ UnaryOp.ne_token rfl⟩
  | @map _ ts _ _ _ _ =>
    cases hgoal
    exact ⟨.leftBrace, ts, rfl, by simp [Token.Inner], fun _ ↦ UnaryOp.ne_token rfl⟩
  | @paren _ ts _ _ _ =>
    cases hgoal
    exact ⟨.leftParen, ts, rfl, by simp [Token.Inner], fun _ ↦ UnaryOp.ne_token rfl⟩
  | _ => cases hgoal

end ReleaseAudit
