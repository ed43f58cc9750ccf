import ReleaseAudit.Expr
import ReleaseAudit.Token.Scan

/-!
# Parsing

From tight to loose: primary and postfix, unary, multiplicative, additive, comparison (which does not
chain), `and`, `or`, conditional. A closure extends as far as an expression can. Every parser returns
the tokens behind what it took together with a proof that there are fewer of them.
-/

namespace ReleaseAudit

inductive ParseError where
  | scan (cause : ScanError)
  | unexpected (expected found : String) (span : Span)
  | unexpectedEnd (expected : String) (context : Option String)
deriving DecidableEq, Repr

namespace ParseError

def span? : ParseError → Option Span
  | scan e => some e.span
  | unexpected _ _ s => some s
  | unexpectedEnd _ _ => none

def message : ParseError → String
  | scan e => e.message
  | unexpected expected found _ => "expected " ++ expected ++ ", found " ++ found
  | unexpectedEnd expected (some context) =>
    "unexpected end of expression while parsing " ++ context ++ ", expected " ++ expected
  | unexpectedEnd expected none => "unexpected end of expression, expected " ++ expected

end ParseError

/-- A result and the tokens behind it, fewer than `limit`. -/
structure Taken (limit : Nat) (α : Type) where
  value : α
  rest : Tokens
  shorter : rest.length < limit

abbrev Outcome := Except ParseError

namespace Parser

def unexpected {α : Type} (expected : String) (found : Located Token) : Outcome α :=
  .error (.unexpected expected found.value.label found.span)

/-- Takes the token `t`. -/
def expect (t : Token) (context : String) (ts : Tokens) : Outcome (Taken ts.length Span) :=
  match ts with
  | [] => .error (.unexpectedEnd t.label (some context))
  | found :: rest =>
    if found.value == t then .ok ⟨found.span, rest, Nat.lt_succ_self _⟩
    else unexpected t.label found

/-- The comparison operator in front, and the tokens behind it. -/
def comparison? : Tokens → Option (BinaryOp × Tokens)
  | ⟨.eq, _⟩ :: ts => some (.eq, ts)
  | ⟨.ne, _⟩ :: ts => some (.ne, ts)
  | ⟨.lt, _⟩ :: ts => some (.lt, ts)
  | ⟨.le, _⟩ :: ts => some (.le, ts)
  | ⟨.gt, _⟩ :: ts => some (.gt, ts)
  | ⟨.ge, _⟩ :: ts => some (.ge, ts)
  | ⟨.inKey, _⟩ :: ts => some (.in, ts)
  | ⟨.notKey, _⟩ :: ⟨.inKey, _⟩ :: ts => some (.notIn, ts)
  | ⟨.name "contains", _⟩ :: ts => some (.contains, ts)
  | ⟨.name "startsWith", _⟩ :: ts => some (.startsWith, ts)
  | ⟨.name "endsWith", _⟩ :: ts => some (.endsWith, ts)
  | ⟨.name "matches", _⟩ :: ts => some (.matches, ts)
  | _ => none

/-- The operators that associate to the left, from loose to tight. -/
inductive Level where
  | disjunctive | conjunctive | additive | multiplicative
deriving DecidableEq, Repr

namespace Level

def op? : Level → Token → Option BinaryOp
  | disjunctive, .orKey => some .or
  | conjunctive, .andKey => some .and
  | additive, .plus => some .add
  | additive, .minus => some .sub
  | multiplicative, .star => some .mul
  | multiplicative, .slash => some .div
  | multiplicative, .percent => some .mod
  | _, _ => none

/-- Of two parsers that look at the same tokens, only the one of higher rank calls the other. -/
@[simp] def rank : Level → Nat
  | disjunctive => 10
  | conjunctive => 8
  | additive => 5
  | multiplicative => 3

end Level

def unaryOp? : Token → Option UnaryOp
  | .notKey => some .not
  | .minus => some .minus
  | _ => none

/-- A name, a string or a number names an entry of a map literal. -/
def mapKey? : Token → Option String
  | .name s => some s
  | .string s => some s
  | .number x => some (Decimal.write x)
  | _ => none

theorem comparison?_length {ts rest : Tokens} {op : BinaryOp}
    (h : comparison? ts = some (op, rest)) : rest.length < ts.length := by
  unfold comparison? at h
  split at h
  all_goals
    cases h
    try exact Nat.lt_succ_self _
  exact Nat.lt_succ_of_lt (Nat.lt_succ_self _)

def joined (op : BinaryOp) (left right : Expr) : Expr :=
  .binary (left.span.merge right.span) op left right

mutual

def expression (ts : Tokens) : Outcome (Taken ts.length Expr) := do
  let ⟨condition, rest, h⟩ ← chain .disjunctive ts
  match rest, h with
  | ⟨.question, _⟩ :: rest, h =>
    have h := Nat.lt_of_succ_lt h
    let ⟨onTrue, rest₁, h₁⟩ ← expression rest
    let ⟨_, rest₂, h₂⟩ ← expect .colon "conditional expression" rest₁
    let ⟨onFalse, rest₃, h₃⟩ ← expression rest₂
    let span := condition.span.merge onFalse.span
    return ⟨.conditional span condition onTrue onFalse, rest₃, by omega⟩
  | rest, h => return ⟨condition, rest, h⟩
termination_by (ts.length, 12)

/-- Operands of a level with its operators between them. -/
def chain (level : Level) (ts : Tokens) : Outcome (Taken ts.length Expr) := do
  let ⟨left, rest, h⟩ ← operand level ts
  let ⟨e, rest₁, h₁⟩ ← chainTail level left rest
  return ⟨e, rest₁, by omega⟩
termination_by (ts.length, level.rank + 1)

/-- The operators and operands of a level that follow the operand `left`. -/
def chainTail (level : Level) (left : Expr) (ts : Tokens) : Outcome (Taken (ts.length + 1) Expr) :=
  match ts with
  | [] => .ok ⟨left, [], Nat.lt_succ_self _⟩
  | t :: rest =>
    match level.op? t.value with
    | none => .ok ⟨left, t :: rest, Nat.lt_succ_self _⟩
    | some op => do
      let ⟨right, rest₁, h₁⟩ ← operand level rest
      let ⟨e, rest₂, h₂⟩ ← chainTail level (joined op left right) rest₁
      return ⟨e, rest₂, by simp only [List.length_cons]; omega⟩
termination_by (ts.length, 0)

def operand (level : Level) (ts : Tokens) : Outcome (Taken ts.length Expr) :=
  match level with
  | .disjunctive => chain .conjunctive ts
  | .conjunctive => comparison ts
  | .additive => chain .multiplicative ts
  | .multiplicative => unary ts
termination_by (ts.length, level.rank)

def comparison (ts : Tokens) : Outcome (Taken ts.length Expr) := do
  let ⟨left, rest, h⟩ ← chain .additive ts
  match hop : comparison? rest with
  | none => return ⟨left, rest, h⟩
  | some (op, rest₁) =>
    have := comparison?_length hop
    let ⟨right, rest₂, h₂⟩ ← chain .additive rest₁
    return ⟨joined op left right, rest₂, by omega⟩
termination_by (ts.length, 7)

def unary (ts : Tokens) : Outcome (Taken ts.length Expr) :=
  match ts with
  | [] => suffixed []
  | t :: rest =>
    match unaryOp? t.value with
    | none => suffixed (t :: rest)
    | some op => do
      let ⟨e, rest₁, h₁⟩ ← unary rest
      return ⟨.unary (t.span.merge e.span) op e, rest₁, by simp only [List.length_cons]; omega⟩
termination_by (ts.length, 2)

def suffixed (ts : Tokens) : Outcome (Taken ts.length Expr) := do
  let ⟨e, rest, h⟩ ← primary ts
  let ⟨e, rest₁, h₁⟩ ← suffixes e rest
  return ⟨e, rest₁, by omega⟩
termination_by (ts.length, 1)

/-- The member accesses, calls and indices that follow the receiver `e`. -/
def suffixes (e : Expr) (ts : Tokens) : Outcome (Taken (ts.length + 1) Expr) :=
  match ts with
  | ⟨.dot, _⟩ :: ⟨.name n, _⟩ :: ⟨.leftParen, _⟩ :: rest => do
    let ⟨(args, stop), rest₁, h₁⟩ ← items .rightParen "method arguments" rest
    let ⟨e, rest₂, h₂⟩ ← suffixes (.method (e.span.merge stop) e n args) rest₁
    return ⟨e, rest₂, by simp only [List.length_cons]; omega⟩
  | ⟨.dot, _⟩ :: ⟨.name n, s⟩ :: rest => do
    let ⟨e, rest₁, h₁⟩ ← suffixes (.property (e.span.merge s) e n) rest
    return ⟨e, rest₁, by simp only [List.length_cons]; omega⟩
  | ⟨.dot, _⟩ :: found :: _ => unexpected "member name after '.'" found
  | ⟨.dot, _⟩ :: [] => .error (.unexpectedEnd "member name" (some "member access"))
  | ⟨.leftParen, _⟩ :: rest => do
    let ⟨(args, stop), rest₁, h₁⟩ ← items .rightParen "call arguments" rest
    let ⟨e, rest₂, h₂⟩ ← suffixes (.call (e.span.merge stop) e args) rest₁
    return ⟨e, rest₂, by simp only [List.length_cons]; omega⟩
  | ⟨.leftBracket, _⟩ :: rest => do
    let ⟨key, rest₁, h₁⟩ ← expression rest
    let ⟨stop, rest₂, h₂⟩ ← expect .rightBracket "index access" rest₁
    let ⟨e, rest₃, h₃⟩ ← suffixes (.index (e.span.merge stop) e key) rest₂
    return ⟨e, rest₃, by simp only [List.length_cons]; omega⟩
  | ts => .ok ⟨e, ts, Nat.lt_succ_self _⟩
termination_by (ts.length, 0)

def primary (ts : Tokens) : Outcome (Taken ts.length Expr) :=
  match ts with
  | [] => .error (.unexpectedEnd "expression" none)
  | ⟨.trueKey, s⟩ :: rest => .ok ⟨.bool s true, rest, Nat.lt_succ_self _⟩
  | ⟨.falseKey, s⟩ :: rest => .ok ⟨.bool s false, rest, Nat.lt_succ_self _⟩
  | ⟨.nullKey, s⟩ :: rest => .ok ⟨.null s, rest, Nat.lt_succ_self _⟩
  | ⟨.number x, s⟩ :: rest => .ok ⟨.number s x, rest, Nat.lt_succ_self _⟩
  | ⟨.string t, s⟩ :: rest => .ok ⟨.string s t, rest, Nat.lt_succ_self _⟩
  | ⟨.name n, s⟩ :: ⟨.arrow, _⟩ :: rest => do
    let ⟨body, rest₁, h₁⟩ ← expression rest
    return ⟨.closure (s.merge body.span) n body, rest₁, by simp only [List.length_cons]; omega⟩
  | ⟨.name n, s⟩ :: rest => .ok ⟨.name s n, rest, Nat.lt_succ_self _⟩
  | ⟨.leftBracket, s⟩ :: rest => do
    let ⟨(elements, stop), rest₁, h₁⟩ ← items .rightBracket "list literal" rest
    return ⟨.list (s.merge stop) elements, rest₁, by simp only [List.length_cons]; omega⟩
  | ⟨.leftBrace, s⟩ :: rest => do
    let ⟨(entries, stop), rest₁, h₁⟩ ← entries rest
    return ⟨.map (s.merge stop) entries, rest₁, by simp only [List.length_cons]; omega⟩
  | ⟨.leftParen, _⟩ :: rest => do
    let ⟨e, rest₁, h₁⟩ ← expression rest
    let ⟨_, rest₂, h₂⟩ ← expect .rightParen "parenthesized expression" rest₁
    return ⟨e, rest₂, by simp only [List.length_cons]; omega⟩
  | found :: _ => unexpected "expression" found
termination_by (ts.length, 0)

/-- Expressions between commas up to and including `close`; the last may end in a comma. -/
def items (close : Token) (context : String) (ts : Tokens) :
    Outcome (Taken ts.length (List Expr × Span)) := do
  if ts.head?.all (·.value == close) then
    let ⟨stop, rest, h⟩ ← expect close context ts
    return ⟨([], stop), rest, h⟩
  else
    let ⟨e, rest, h⟩ ← expression ts
    match rest, h with
    | ⟨.comma, _⟩ :: rest, h =>
      have h := Nat.lt_of_succ_lt h
      let ⟨(more, stop), rest₁, h₁⟩ ← items close context rest
      return ⟨(e :: more, stop), rest₁, by omega⟩
    | rest, h =>
      let ⟨stop, rest₁, h₁⟩ ← expect close context rest
      return ⟨([e], stop), rest₁, by omega⟩
termination_by (ts.length, 13)

/-- The entries of a map literal up to and including the closing brace. -/
def entries (ts : Tokens) : Outcome (Taken ts.length (List (String × Expr) × Span)) :=
  match ts with
  | [] => .error (.unexpectedEnd (Token.label .rightBrace) (some "mapping literal"))
  | ⟨.rightBrace, s⟩ :: rest => .ok ⟨([], s), rest, Nat.lt_succ_self _⟩
  | found :: rest =>
    match mapKey? found.value with
    | none => unexpected "mapping key" found
    | some key => do
      let ⟨_, rest₁, h₁⟩ ← expect .colon "mapping literal" rest
      let ⟨e, rest₂, h₂⟩ ← expression rest₁
      match rest₂, h₂ with
      | ⟨.comma, _⟩ :: rest₂, h₂ =>
        have h₂ := Nat.lt_of_succ_lt h₂
        let ⟨(more, stop), rest₃, h₃⟩ ← entries rest₂
        return ⟨((key, e) :: more, stop), rest₃, by simp only [List.length_cons] at *; omega⟩
      | rest₂, h₂ =>
        let ⟨stop, rest₃, h₃⟩ ← expect .rightBrace "mapping literal" rest₂
        return ⟨([(key, e)], stop), rest₃, by simp only [List.length_cons] at *; omega⟩
termination_by (ts.length, 0)

end

end Parser

/-- Parses a whole token sequence as one expression. -/
def Expr.ofTokens (ts : Tokens) : Except ParseError Expr := do
  let ⟨e, rest, _⟩ ← Parser.expression ts
  match rest with
  | [] => return e
  | found :: _ => Parser.unexpected "end of expression" found

def Expr.parse (source : String) : Except ParseError Expr :=
  match scan source with
  | .error e => .error (.scan e)
  | .ok ts => Expr.ofTokens ts

end ReleaseAudit
