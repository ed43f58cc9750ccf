import ReleaseAudit.Proofs.Expr.Given

/-!
# Printing expressions

Expressions are printed with parentheses only where the grammar needs them: around operands of a
looser level, around closures, which would take what follows, and around a property that is called,
which would be read as a method. Parsing what was printed gives the expression back.
-/

namespace ReleaseAudit

namespace Expr

def level : Expr → Precedence
  | conditional .. => .conditional
  | binary _ op _ _ => op.precedence
  | unary .. => .unary
  | property .. | index .. | method .. | call .. => .suffixed
  | null _ | bool .. | number .. | string .. | name .. | list .. | map .. | closure .. => .primary

def isClosure : Expr → Bool
  | closure .. => true
  | _ => false

def isProperty : Expr → Bool
  | property .. => true
  | _ => false

/-- Whether the expression is put into parentheses as an operand in a position of level `k`. -/
def parenthesized (k : Precedence) (e : Expr) : Bool := decide (e.level < k) || e.isClosure

end Expr

/-- The level of the position to the left of an operator. -/
def BinaryOp.leftLevel (op : BinaryOp) : Precedence :=
  if op.precedence = .comparative then .additive else op.precedence

/-- Tokens in parentheses, where these are needed. -/
def parenthesize (needed : Bool) (ts : List Token) : List Token :=
  if needed then .leftParen :: (ts ++ [.rightParen]) else ts

namespace Expr

mutual

@[grind =]
def print : Expr → List Token
  | null _ => [.nullKey]
  | bool _ b => [if b then .trueKey else .falseKey]
  | number _ x => [.number x]
  | string _ s => [.string s]
  | name _ n => [.name n]
  | list _ items => .leftBracket :: (printItems items ++ [.rightBracket])
  | map _ entries => .leftBrace :: (printEntries entries ++ [.rightBrace])
  | property _ receiver n =>
    parenthesize (parenthesized .suffixed receiver) (print receiver) ++ [.dot, .name n]
  | index _ receiver key =>
    parenthesize (parenthesized .suffixed receiver) (print receiver) ++
      .leftBracket :: (print key ++ [.rightBracket])
  | method _ receiver n args =>
    parenthesize (parenthesized .suffixed receiver) (print receiver) ++
      .dot :: .name n :: .leftParen :: (printItems args ++ [.rightParen])
  | call _ function args =>
    parenthesize (parenthesized .suffixed function || function.isProperty) (print function) ++
      .leftParen :: (printItems args ++ [.rightParen])
  | closure _ param body => .name param :: .arrow :: print body
  | unary _ op operand => op.token :: parenthesize (parenthesized .unary operand) (print operand)
  | binary _ op left right =>
    parenthesize (parenthesized op.leftLevel left) (print left) ++
      (op.tokens ++ parenthesize (parenthesized op.precedence.next right) (print right))
  | conditional _ condition onTrue onFalse =>
    parenthesize (parenthesized .disjunctive condition) (print condition) ++
      .question :: (print onTrue ++ .colon :: print onFalse)

@[grind =]
def printItems : List Expr → List Token
  | [] => []
  | [e] => print e
  | e :: es => print e ++ .comma :: printItems es

@[grind =]
def printEntries : List (String × Expr) → List Token
  | [] => []
  | [(key, e)] => .string key :: .colon :: print e
  | (key, e) :: es => .string key :: .colon :: (print e ++ .comma :: printEntries es)

end

end Expr

/-! ## What is read on looser levels -/

/-- Nothing is added on a level that the tokens do not continue. -/
theorem Reads.tail_eq {k : Precedence} {l e : Expr} {ts rest : List Token}
    (h : Reads (.tail k l e) ts rest) (hts : continues ts ≠ some k) : e = l ∧ rest = ts := by
  generalize hgoal : Goal.tail k l e = goal at h
  cases h with
  | stop _ =>
    cases hgoal
    exact ⟨rfl, rfl⟩
  | @binary op _ _ _ _ _ _ _ _ _ _ =>
    cases hgoal
    exact absurd (continues_tokens op _) hts
  | comparison _ hop _ =>
    cases hgoal
    exact absurd (hop ▸ continues_tokens _ _) hts
  | conditional | property | method | call | index =>
    cases hgoal
    exact absurd rfl hts
  | _ => cases hgoal

theorem Precedence.next_le_of_lt {k top : Precedence} (h : k < top) : k.next ≤ top := by
  revert h
  cases k <;> cases top <;> decide

theorem Precedence.lt_next {k : Precedence} (hk : k ≠ .primary) : k < k.next := by
  revert hk
  cases k <;> decide

/-- The tokens continue no phrase of a level tighter than `k`. -/
def Loose (k : Precedence) (ts : List Token) : Prop := ∀ k', continues ts = some k' → k' ≤ k

theorem loose_of_none {k : Precedence} {ts : List Token} (h : continues ts = none) :
    Loose k ts := by
  intro k' hk'
  rw [h] at hk'
  cases hk'

theorem loose_of_some {k k' : Precedence} {ts : List Token} (h : continues ts = some k')
    (hle : k' ≤ k) : Loose k ts := by
  intro found hfound
  cases h.symm.trans hfound
  exact hle

theorem Loose.mono {k top : Precedence} {ts : List Token} (h : Loose k ts) (hle : k ≤ top) :
    Loose top ts := fun k' hk' ↦ (h k' hk').trans hle

theorem Loose.ne {k top : Precedence} {ts : List Token} (h : Loose k ts) (hlt : k < top) :
    continues ts ≠ some top := fun htop ↦ absurd (h top htop) (not_le_of_gt hlt)

/-- A phrase is one of every looser level, and is continued there. -/
theorem Reads.loosen {top k : Precedence} {e whole : Expr} {ts z rest : List Token}
    (h : Reads (.phrase top e) ts z) (hk : k < top) (hz : Loose k z)
    (htail : Reads (.tail k e whole) z rest) : Reads (.phrase k whole) ts rest := by
  induction hn : top.rank - k.rank using Nat.strong_induction_on generalizing k whole rest with
  | _ n ih =>
  have hprimary : k ≠ .primary := by
    rintro rfl
    exact absurd hk (by cases top <;> decide)
  have hlt := Precedence.lt_next hprimary
  refine .climb hprimary ?_ htail
  rcases (Precedence.next_le_of_lt hk).eq_or_lt with heq | hnext
  · rw [heq]
    exact h
  · have hfalls : top.rank - k.next.rank < n := by
      have hlow : k.rank < k.next.rank := hlt
      have htop : k.next.rank < top.rank := hnext
      omega
    exact ih _ hfalls hnext (hz.mono hlt.le) (.stop (hz.ne hlt)) rfl

namespace Expr

/-- The tokens `z` may follow the expression when it is printed in a position of level `k`. -/
structure Fits (e : Expr) (k : Precedence) (z : List Token) : Prop where
  loose : Loose k z
  repeats : continues z = some e.level → e.level.repeats
  property : e.isProperty → z.head? ≠ some .leftParen
  closure : e.isClosure → continues z = none

/-- A printed expression is read on its own level, in front of any tokens that may follow it. -/
def ReadsPrinted (e : Expr) : Prop := ∀ z whole rest, e.Fits e.level z →
  Reads (.tail e.level e whole) z rest → Reads (.phrase e.level whole) (e.print ++ z) rest

variable {e : Expr} {k : Precedence} {z rest : List Token} {whole : Expr}

theorem fits_of_none (hz : continues z = none) : e.Fits k z where
  loose := loose_of_none hz
  repeats h := by simp [hz] at h
  property _ hhead := by
    obtain ⟨more, rfl⟩ := List.head?_eq_some_iff.1 hhead
    cases hz
  closure _ := hz

theorem ReadsPrinted.phrase (he : e.ReadsPrinted) (hk : k ≤ e.level) (hz : e.Fits k z)
    (htail : Reads (.tail k e whole) z rest) : Reads (.phrase k whole) (e.print ++ z) rest := by
  have hown : e.Fits e.level z := ⟨hz.loose.mono hk, hz.repeats, hz.property, hz.closure⟩
  rcases hk.eq_or_lt with rfl | hlt
  · exact he z whole rest hown htail
  · exact (he z e z hown (.stop (hz.loose.ne hlt))).loosen hlt hz.loose htail

/-- In front of tokens that continue nothing, a printed expression is read up to them. -/
theorem ReadsPrinted.expression (he : e.ReadsPrinted) (hz : continues z = none) :
    Reads (.phrase .conditional e) (e.print ++ z) z :=
  he.phrase (by cases e.level <;> decide) (fits_of_none hz) (.stop (by simp [hz]))

/-- An operand is read on the level of its position. -/
theorem ReadsPrinted.operand (he : e.ReadsPrinted) {needed : Bool} (hk : k < .primary)
    (hz : Loose k z) (hfits : needed = false → k ≤ e.level ∧ e.Fits k z)
    (htail : Reads (.tail k e whole) z rest) :
    Reads (.phrase k whole) (parenthesize needed e.print ++ z) rest := by
  cases needed with
  | false =>
    obtain ⟨hlevel, hfits⟩ := hfits rfl
    exact he.phrase hlevel hfits htail
  | true =>
    have hinner := he.expression (z := .rightParen :: z) rfl
    have hprimary : Reads (.phrase .primary e) (parenthesize true e.print ++ z) z := by
      simpa [parenthesize] using Reads.paren hinner
    exact hprimary.loosen hk hz htail

/-- The parentheses of an operand are those that its position needs, if `z` repeats its level. -/
theorem fits_of_not_parenthesized (hpar : parenthesized k e = false) (hz : Loose k z)
    (hrepeats : continues z = some k → k.repeats)
    (hproperty : e.isProperty → z.head? ≠ some .leftParen) : k ≤ e.level ∧ e.Fits k z := by
  simp only [parenthesized, Bool.or_eq_false_iff, decide_eq_false_iff_not, not_lt] at hpar
  obtain ⟨hlevel, hclosure⟩ := hpar
  refine ⟨hlevel, hz, fun h ↦ ?_, hproperty, fun h ↦ ?_⟩
  · have hsame : e.level = k := le_antisymm (hz _ h) hlevel
    rw [hsame] at h ⊢
    exact hrepeats h
  · rw [hclosure] at h
    cases h

theorem head?_ne_of_loose (hz : Loose k z) (hk : k < .suffixed) : z.head? ≠ some .leftParen := by
  intro hhead
  obtain ⟨more, rfl⟩ := List.head?_eq_some_iff.1 hhead
  exact hz.ne hk rfl

/-- An operand that nothing continues on the level of its position is read as it is. -/
theorem ReadsPrinted.closed (he : e.ReadsPrinted) (hk : k < .suffixed) (hz : Loose k z)
    (hne : continues z ≠ some k) :
    Reads (.phrase k e) (parenthesize (parenthesized k e) e.print ++ z) z := by
  refine he.operand (hk.trans (by decide)) hz (fun hpar ↦ ?_) (.stop hne)
  exact fits_of_not_parenthesized hpar hz (fun h ↦ absurd h hne) fun _ ↦ head?_ne_of_loose hz hk

/-- The left operand of an operator that associates to the left is read together with what follows
on its level. -/
theorem ReadsPrinted.left (he : e.ReadsPrinted) (hk : k < .suffixed) (hz : Loose k z)
    (hrepeats : k.repeats) (htail : Reads (.tail k e whole) z rest) :
    Reads (.phrase k whole) (parenthesize (parenthesized k e) e.print ++ z) rest := by
  refine he.operand (hk.trans (by decide)) hz (fun hpar ↦ ?_) htail
  exact fits_of_not_parenthesized hpar hz (fun _ ↦ hrepeats) fun _ ↦ head?_ne_of_loose hz hk

/-- A receiver is read together with the suffixes behind it. -/
theorem ReadsPrinted.receiver (he : e.ReadsPrinted) (hz : continues z = some .suffixed)
    (hhead : z.head? ≠ some .leftParen) (htail : Reads (.tail .suffixed e whole) z rest) :
    Reads (.phrase .suffixed whole) (parenthesize (parenthesized .suffixed e) e.print ++ z) rest := by
  have hloose := loose_of_some hz le_rfl
  refine he.operand (by decide) hloose (fun hpar ↦ ?_) htail
  exact fits_of_not_parenthesized hpar hloose (fun _ ↦ rfl) fun _ ↦ hhead

/-- The list is read when it is printed in front of a closing token. -/
def ItemsReadPrinted (es : List Expr) : Prop :=
  ∀ close z, close.Closing → Reads (.items close es) (printItems es ++ close :: z) z

def EntriesReadPrinted (es : List (String × Expr)) : Prop :=
  ∀ z, Reads (.entries es) (printEntries es ++ .rightBrace :: z) z

/-! ## The forms of expressions -/

theorem readsPrinted_primary (hlevel : e.level = .primary)
    (hread : ∀ z, z.head? ≠ some .arrow → (e.isClosure → continues z = none) →
      Reads (.phrase .primary e) (e.print ++ z) z) : e.ReadsPrinted := by
  intro z whole rest hz htail
  have hne : continues z ≠ some e.level := by
    intro h
    have hrepeats := hz.repeats h
    rw [hlevel] at hrepeats
    cases hrepeats
  obtain ⟨rfl, rfl⟩ := htail.tail_eq hne
  rw [hlevel] at hne ⊢
  refine hread rest (fun hhead ↦ hne ?_) hz.closure
  obtain ⟨more, rfl⟩ := List.head?_eq_some_iff.1 hhead
  rfl

theorem readsPrinted_unary {s : Span} {op : UnaryOp} (he : e.ReadsPrinted) :
    (unary s op e).ReadsPrinted := by
  intro z whole rest hz htail
  obtain ⟨rfl, rfl⟩ := htail.tail_eq continues_ne_unary
  exact .unary s (he.closed (by decide) hz.loose continues_ne_unary)

theorem readsPrinted_binary {s : Span} {op : BinaryOp} {l r : Expr} (hl : l.ReadsPrinted)
    (hr : r.ReadsPrinted) : (binary s op l r).ReadsPrinted := by
  intro z whole rest hz htail
  have hlt : op.precedence < op.precedence.next :=
    Precedence.lt_next (op.precedence_lt.trans (by decide)).ne
  have hnext : op.precedence.next < .suffixed := by cases op <;> decide
  have hright : Reads (.phrase op.precedence.next r)
      (parenthesize (parenthesized op.precedence.next r) r.print ++ z) z :=
    hr.closed hnext (hz.loose.mono hlt.le) (hz.loose.ne hlt)
  simp only [print, List.append_assoc]
  by_cases hop : op.precedence = .comparative
  · -- Comparisons do not chain, so that nothing follows on their level.
    have hne : continues z ≠ some op.precedence := by
      intro h
      have hrepeats := hz.repeats h
      simp [level, hop, Precedence.repeats] at hrepeats
    obtain ⟨rfl, rfl⟩ := htail.tail_eq hne
    have hleft : op.leftLevel = .additive := if_pos hop
    have hcontinues (ts : List Token) : continues (op.tokens ++ ts) = some .comparative := by
      rw [continues_tokens, hop]
    rw [hleft]
    change Reads (.phrase op.precedence _) _ _
    rw [hop] at hright ⊢
    refine .climb (by decide) (hl.closed (by decide) ?_ ?_) (.comparison s hop hright)
    · exact loose_of_some (hcontinues _) (by decide)
    · rw [hcontinues]
      decide
  · have hleft : op.leftLevel = op.precedence := if_neg hop
    rw [hleft]
    exact hl.left (hlt.trans hnext) (loose_of_some (continues_tokens op _) le_rfl)
      (BinaryOp.precedence_repeats hop) (.binary s hop hright htail)

theorem readsPrinted_conditional {s : Span} {c t f : Expr} (hc : c.ReadsPrinted)
    (ht : t.ReadsPrinted) (hf : f.ReadsPrinted) : (conditional s c t f).ReadsPrinted := by
  intro z whole rest hz htail
  have hne : continues z ≠ some .conditional := fun h ↦ Bool.false_ne_true (hz.repeats h)
  have hnone : continues z = none := by
    cases h : continues z with
    | none => rfl
    | some k' =>
      have hle : k' ≤ .conditional := hz.loose k' h
      cases k' <;> first | exact absurd h hne | exact absurd hle (by decide)
  obtain ⟨rfl, rfl⟩ := htail.tail_eq hne
  simp only [print, List.append_assoc, List.cons_append]
  have hcondition (ts : List Token) : Reads (.phrase .disjunctive c)
      (parenthesize (parenthesized .disjunctive c) c.print ++ .question :: ts)
      (.question :: ts) := by
    have hquestion : continues (.question :: ts) = some .conditional := rfl
    refine hc.closed (by decide) (loose_of_some hquestion (by decide)) ?_
    rw [hquestion]
    decide
  exact Reads.climb (k := .conditional) (by decide) (hcondition _)
    (.conditional s (ht.expression rfl) (hf.expression hnone))

theorem readsPrinted_property {s : Span} {n : String} (he : e.ReadsPrinted) :
    (property s e n).ReadsPrinted := by
  intro z whole rest hz htail
  simp only [print, List.append_assoc, List.cons_append, List.nil_append]
  exact he.receiver rfl (by simp) (.property s (hz.property rfl) htail)

theorem readsPrinted_index {s : Span} {key : Expr} (he : e.ReadsPrinted) (hkey : key.ReadsPrinted) :
    (index s e key).ReadsPrinted := by
  intro z whole rest hz htail
  simp only [print, List.append_assoc, List.cons_append, List.nil_append]
  exact he.receiver rfl (by simp) (.index s (hkey.expression rfl) htail)

theorem readsPrinted_method {s : Span} {n : String} {args : List Expr} (he : e.ReadsPrinted)
    (hargs : ItemsReadPrinted args) : (method s e n args).ReadsPrinted := by
  intro z whole rest hz htail
  simp only [print, List.append_assoc, List.cons_append, List.nil_append]
  exact he.receiver rfl (by simp) (.method s (hargs .rightParen z (by simp [Token.Closing])) htail)

theorem readsPrinted_call {s : Span} {args : List Expr} (he : e.ReadsPrinted)
    (hargs : ItemsReadPrinted args) : (call s e args).ReadsPrinted := by
  intro z whole rest hz htail
  simp only [print, List.append_assoc, List.cons_append, List.nil_append]
  have hcontinues (ts : List Token) : continues (.leftParen :: ts) = some .suffixed := rfl
  have hloose (ts : List Token) : Loose .suffixed (.leftParen :: ts) :=
    loose_of_some (hcontinues ts) le_rfl
  refine he.operand (k := .suffixed) (by decide) (hloose _) (fun hpar ↦ ?_)
    (.call s (hargs .rightParen z (by simp [Token.Closing])) htail)
  rw [Bool.or_eq_false_iff] at hpar
  obtain ⟨hpar, hproperty⟩ := hpar
  exact fits_of_not_parenthesized hpar (hloose _) (fun _ ↦ rfl) fun h ↦ by simp [hproperty] at h

theorem readsPrinted_closure {s : Span} {n : String} {body : Expr} (hbody : body.ReadsPrinted) :
    (closure s n body).ReadsPrinted :=
  readsPrinted_primary rfl fun _ _ hz ↦ .closure s (hbody.expression (hz rfl))

theorem readsPrinted_list {s : Span} {es : List Expr} (hes : ItemsReadPrinted es) :
    (list s es).ReadsPrinted := by
  refine readsPrinted_primary rfl fun z _ _ ↦ ?_
  simp only [print, List.append_assoc, List.cons_append, List.nil_append]
  exact .list s (hes .rightBracket z (by simp [Token.Closing]))

theorem readsPrinted_map {s : Span} {es : List (String × Expr)} (hes : EntriesReadPrinted es) :
    (map s es).ReadsPrinted := by
  refine readsPrinted_primary rfl fun z _ _ ↦ ?_
  simp only [print, List.append_assoc, List.cons_append, List.nil_append]
  exact .map s (hes z)

theorem itemsReadPrinted_cons {es : List Expr} (he : e.ReadsPrinted) (hes : ItemsReadPrinted es) :
    ItemsReadPrinted (e :: es) := by
  intro close z hclose
  cases es with
  | nil => exact .lastItem (he.expression hclose.continues_eq)
  | cons next es =>
    simp only [printItems, List.append_assoc, List.cons_append]
    exact .item (he.expression rfl) (hes close z hclose)

theorem entriesReadPrinted_cons {key : String} {es : List (String × Expr)} (he : e.ReadsPrinted)
    (hes : EntriesReadPrinted es) : EntriesReadPrinted ((key, e) :: es) := by
  intro z
  cases es with
  | nil => exact .lastEntry rfl (he.expression rfl)
  | cons next es =>
    simp only [printEntries, List.append_assoc, List.cons_append]
    exact .entry rfl (he.expression rfl) (hes z)

mutual

theorem readsPrinted : (e : Expr) → e.ReadsPrinted
  | null s => readsPrinted_primary rfl fun _ _ _ ↦ .literal (.null s)
  | bool s true => readsPrinted_primary rfl fun _ _ _ ↦ .literal (.true s)
  | bool s false => readsPrinted_primary rfl fun _ _ _ ↦ .literal (.false s)
  | number s x => readsPrinted_primary rfl fun _ _ _ ↦ .literal (.number s x)
  | string s t => readsPrinted_primary rfl fun _ _ _ ↦ .literal (.string s t)
  | name s _ => readsPrinted_primary rfl fun _ hz _ ↦ .name s hz
  | list _ es => readsPrinted_list (itemsReadPrinted es)
  | map _ es => readsPrinted_map (entriesReadPrinted es)
  | property _ e _ => readsPrinted_property (readsPrinted e)
  | index _ e key => readsPrinted_index (readsPrinted e) (readsPrinted key)
  | method _ e _ args => readsPrinted_method (readsPrinted e) (itemsReadPrinted args)
  | call _ e args => readsPrinted_call (readsPrinted e) (itemsReadPrinted args)
  | closure _ _ body => readsPrinted_closure (readsPrinted body)
  | unary _ _ e => readsPrinted_unary (readsPrinted e)
  | binary _ _ l r => readsPrinted_binary (readsPrinted l) (readsPrinted r)
  | conditional _ c t f =>
    readsPrinted_conditional (readsPrinted c) (readsPrinted t) (readsPrinted f)

theorem itemsReadPrinted : (es : List Expr) → ItemsReadPrinted es
  | [] => fun _ _ _ ↦ .noItem
  | e :: es => itemsReadPrinted_cons (readsPrinted e) (itemsReadPrinted es)

theorem entriesReadPrinted : (es : List (String × Expr)) → EntriesReadPrinted es
  | [] => fun _ ↦ .noEntry
  | (_, e) :: es => entriesReadPrinted_cons (readsPrinted e) (entriesReadPrinted es)

end

/-- Tokens at any places that print an expression are parsed as that expression. -/
theorem ofTokens_print {ts : Tokens} {e : Expr} (hts : ts.map Located.value = e.print) :
    ∃ e', ofTokens ts = .ok e' ∧ e'.bare = e.bare := by
  have hread := (readsPrinted e).expression (z := []) rfl
  rw [List.append_nil, ← hts] at hread
  exact ofTokens_of_reads hread

/-- A closure as a condition, a sum below a sign and a called property. -/
def sample : Expr :=
  .conditional default (.closure default "x" (.name default "x"))
    (.binary default .mul (.unary default .minus
      (.binary default .add (.name default "a") (.name default "b"))) (.name default "c"))
    (.call default (.property default (.name default "git") "log") [.name default "d"])

def sampleTokens : List Token :=
  [.leftParen, .name "x", .arrow, .name "x", .rightParen, .question,
    .minus, .leftParen, .name "a", .plus, .name "b", .rightParen, .star, .name "c", .colon,
    .leftParen, .name "git", .dot, .name "log", .rightParen, .leftParen, .name "d", .rightParen]

theorem ofTokens_print_sample :
    (sampleTokens.map (⟨·, default⟩) : Tokens).map Located.value = sample.print ∧
      ∃ e', ofTokens (sampleTokens.map (⟨·, default⟩)) = .ok e' ∧ e'.bare = sample.bare :=
  ⟨rfl, ofTokens_print rfl⟩

end Expr

end ReleaseAudit
