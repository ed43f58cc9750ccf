import ReleaseAudit.Proofs.Expr.Parsing

/-!
# What can be read is given

The parser follows the reading of an expression token by token, so that it returns the expression
that was read with spans of its own. Together with the converse, a token sequence is parsed exactly
when it can be read as a whole.
-/

namespace ReleaseAudit

namespace Expr

mutual

/-- The expression without its spans. -/
def bare : Expr → Expr
  | null _ => null default
  | bool _ b => bool default b
  | number _ x => number default x
  | string _ s => string default s
  | name _ n => name default n
  | list _ items => list default (bareItems items)
  | map _ entries => map default (bareEntries entries)
  | property _ receiver n => property default (bare receiver) n
  | index _ receiver key => index default (bare receiver) (bare key)
  | method _ receiver n args => method default (bare receiver) n (bareItems args)
  | call _ function args => call default (bare function) (bareItems args)
  | closure _ param body => closure default param (bare body)
  | unary _ op operand => unary default op (bare operand)
  | binary _ op left right => binary default op (bare left) (bare right)
  | conditional _ condition onTrue onFalse =>
    conditional default (bare condition) (bare onTrue) (bare onFalse)

def bareItems : List Expr → List Expr
  | [] => []
  | e :: es => bare e :: bareItems es

def bareEntries : List (String × Expr) → List (String × Expr)
  | [] => []
  | (key, e) :: es => (key, bare e) :: bareEntries es

end

end Expr

namespace Parser

/-- The parser of the phrases of a level. -/
def phraseAt (k : Precedence) (ts : Tokens) : Outcome (Taken ts.length Expr) :=
  match k with
  | .conditional => expression ts
  | .disjunctive => chain .disjunctive ts
  | .conjunctive => chain .conjunctive ts
  | .comparative => comparison ts
  | .additive => chain .additive ts
  | .multiplicative => chain .multiplicative ts
  | .unary => unary ts
  | .suffixed => suffixed ts
  | .primary => primary ts

/-- Behind the phrase `left` of the next level, the parser of a level takes what makes it `e`. -/
def TailGives (k : Precedence) (left : Expr) (ts : Tokens) (e : Expr) (rest : Tokens) : Prop :=
  match k with
  | .conditional =>
    (∃ s more t s' mid f, ts = ⟨.question, s⟩ :: more ∧
      Gives (expression more) t (⟨.colon, s'⟩ :: mid) ∧ Gives (expression mid) f rest ∧
        e = .conditional (left.span.merge f.span) left t f) ∨
      (∀ s more, ts ≠ ⟨.question, s⟩ :: more) ∧ e = left ∧ rest = ts
  | .disjunctive => Gives (chainTail .disjunctive left ts) e rest
  | .conjunctive => Gives (chainTail .conjunctive left ts) e rest
  | .comparative =>
    (∃ op mid r, comparison? ts = some (op, mid) ∧ Gives (chain .additive mid) r rest ∧
      e = joined op left r) ∨
      comparison? ts = none ∧ e = left ∧ rest = ts
  | .additive => Gives (chainTail .additive left ts) e rest
  | .multiplicative => Gives (chainTail .multiplicative left ts) e rest
  | .suffixed => Gives (suffixes left ts) e rest
  | .unary | .primary => e = left ∧ rest = ts

theorem phraseAt_next (level : Level) (ts : Tokens) :
    phraseAt level.precedence.next ts = operand level ts := by
  cases level <;> rw [operand] <;> rfl

theorem tailGives_level_iff {level : Level} {left e : Expr} {ts rest : Tokens} :
    TailGives level.precedence left ts e rest ↔ Gives (chainTail level left ts) e rest := by
  cases level <;> exact Iff.rfl

theorem reads_of_gives {k : Precedence} {ts rest : Tokens} {e : Expr}
    (h : Gives (phraseAt k ts) e rest) :
    Reads (.phrase k e) (ts.map Located.value) (rest.map Located.value) := by
  obtain ⟨hexpression, hchain, -, -, hunary, hsuffixed, -, -, hprimary, -, hcomparison⟩ := readable
  cases k with
  | conditional => exact hexpression ts e rest h
  | comparative => exact hcomparison ts e rest h
  | unary => exact hunary ts e rest h
  | suffixed => exact hsuffixed ts e rest h
  | primary => exact hprimary ts e rest h
  | disjunctive => exact hchain .disjunctive ts e rest h
  | conjunctive => exact hchain .conjunctive ts e rest h
  | additive => exact hchain .additive ts e rest h
  | multiplicative => exact hchain .multiplicative ts e rest h

/-- An operator in front would have kept the phrase without one from being given. -/
theorem unaryOp?_eq_none {t : Located Token} {ts rest : Tokens} {e : Expr}
    (h : Gives (suffixed (t :: ts)) e rest) : unaryOp? t.value = none := by
  obtain ⟨_, _, heq, _, hop⟩ := (reads_of_gives (k := .suffixed) h).head rfl
  cases heq
  cases hfound : unaryOp? t.value with
  | none => rfl
  | some op => exact absurd (unaryOp?_eq_some_iff.1 hfound) (hop le_rfl op)

theorem gives_phraseAt {k : Precedence} {ts mid rest : Tokens} {l e : Expr} (hk : k ≠ .primary)
    (hl : Gives (phraseAt k.next ts) l mid) (he : TailGives k l mid e rest) :
    Gives (phraseAt k ts) e rest := by
  cases k with
  | conditional => exact gives_expression_iff.2 ⟨l, mid, hl, he⟩
  | comparative => exact gives_comparison_iff.2 ⟨l, mid, hl, he⟩
  | suffixed => exact gives_suffixed_iff.2 ⟨l, mid, hl, he⟩
  | disjunctive => exact gives_chain_iff.2 ⟨l, mid, phraseAt_next .disjunctive ts ▸ hl, he⟩
  | conjunctive => exact gives_chain_iff.2 ⟨l, mid, phraseAt_next .conjunctive ts ▸ hl, he⟩
  | additive => exact gives_chain_iff.2 ⟨l, mid, phraseAt_next .additive ts ▸ hl, he⟩
  | multiplicative => exact gives_chain_iff.2 ⟨l, mid, phraseAt_next .multiplicative ts ▸ hl, he⟩
  | unary =>
    obtain ⟨rfl, rfl⟩ := he
    have heq : unary ts = suffixed ts := by
      refine unary_eq_suffixed ?_
      rintro t more rfl
      exact unaryOp?_eq_none hl
    change Gives (unary ts) e rest
    rw [heq]
    exact hl
  | primary => exact absurd rfl hk

theorem tailGives_stop {k : Precedence} {e : Expr} {ts : Tokens}
    (hts : continues (ts.map Located.value) ≠ some k) : TailGives k e ts e ts := by
  have hchain (level : Level) (hlevel : level.precedence = k) :
      Gives (chainTail level e ts) e ts := by
    cases ts with
    | nil => exact gives_chainTail_nil_iff.2 ⟨rfl, rfl⟩
    | cons t ts =>
      exact (gives_chainTail_stop_iff (op?_eq_none_iff.2 (hlevel ▸ hts))).2 ⟨rfl, rfl⟩
  cases k with
  | conditional =>
    refine Or.inr ⟨?_, rfl, rfl⟩
    rintro s more rfl
    exact hts rfl
  | comparative => exact Or.inr ⟨comparison?_eq_none_iff.2 hts, rfl, rfl⟩
  | suffixed => exact (gives_suffixes_stop_iff hts).2 ⟨rfl, rfl⟩
  | unary => exact ⟨rfl, rfl⟩
  | primary => exact ⟨rfl, rfl⟩
  | disjunctive => exact hchain .disjunctive rfl
  | conjunctive => exact hchain .conjunctive rfl
  | additive => exact hchain .additive rfl
  | multiplicative => exact hchain .multiplicative rfl

/-- Without spans, the parser gives what the goal says when it starts at the tokens `w`, and leaves
the tokens `z`. -/
def Given (w z : List Token) : Goal → Prop
  | .phrase k e => ∀ ts : Tokens, ts.map Located.value = w →
    ∃ e' rest, Gives (phraseAt k ts) e' rest ∧ e'.bare = e.bare ∧ rest.map Located.value = z
  | .tail k left e => ∀ (left' : Expr) (ts : Tokens), left'.bare = left.bare →
    ts.map Located.value = w →
    ∃ e' rest, TailGives k left' ts e' rest ∧ e'.bare = e.bare ∧ rest.map Located.value = z
  | .items close es => close.Closing → ∀ context (ts : Tokens), ts.map Located.value = w →
    ∃ es' stop rest, Gives (items close context ts) (es', stop) rest ∧
      Expr.bareItems es' = Expr.bareItems es ∧ rest.map Located.value = z
  | .entries es => ∀ ts : Tokens, ts.map Located.value = w →
    ∃ es' stop rest, Gives (entries ts) (es', stop) rest ∧
      Expr.bareEntries es' = Expr.bareEntries es ∧ rest.map Located.value = z

theorem exists_level {op : BinaryOp} (hop : op.precedence ≠ .comparative) :
    ∃ (level : Level) (t : Token), op.precedence = level.precedence ∧ op.tokens = [t] := by
  cases op <;> first | exact absurd rfl hop | skip
  case or => exact ⟨.disjunctive, _, rfl, rfl⟩
  case and => exact ⟨.conjunctive, _, rfl, rfl⟩
  case add => exact ⟨.additive, _, rfl, rfl⟩
  case sub => exact ⟨.additive, _, rfl, rfl⟩
  case mul => exact ⟨.multiplicative, _, rfl, rfl⟩
  case div => exact ⟨.multiplicative, _, rfl, rfl⟩
  case mod => exact ⟨.multiplicative, _, rfl, rfl⟩

theorem exists_gives_literal {t : Token} {e : Expr} (s : Span) (ts : Tokens) (ht : Literal t e) :
    ∃ e', Gives (primary (⟨t, s⟩ :: ts)) e' ts ∧ e'.bare = e.bare := by
  cases ht with
  | true => exact ⟨.bool s true, by rw [primary]; exact gives_ok_iff.2 ⟨rfl, rfl⟩, rfl⟩
  | false => exact ⟨.bool s false, by rw [primary]; exact gives_ok_iff.2 ⟨rfl, rfl⟩, rfl⟩
  | null => exact ⟨.null s, by rw [primary]; exact gives_ok_iff.2 ⟨rfl, rfl⟩, rfl⟩
  | number _ x => exact ⟨.number s x, by rw [primary]; exact gives_ok_iff.2 ⟨rfl, rfl⟩, rfl⟩
  | string _ t => exact ⟨.string s t, by rw [primary]; exact gives_ok_iff.2 ⟨rfl, rfl⟩, rfl⟩

theorem head_ne_close {close : Token} (hclose : close.Closing) {e : Expr} {ts : Tokens}
    {w z : List Token} (hread : Reads (.phrase .conditional e) w z)
    (hts : ts.map Located.value = w) : ∃ t more, ts = t :: more ∧ t.value ≠ close := by
  obtain ⟨t, _, rfl, hinner, _⟩ := hread.head rfl
  obtain ⟨s, more, rfl, _⟩ := exists_of_map_eq_cons hts
  refine ⟨⟨t, s⟩, more, rfl, ?_⟩
  rintro rfl
  exact hinner hclose.inner

theorem given {goal : Goal} {w z : List Token} (h : Reads goal w z) : Given w z goal := by
  induction h with
  | climb hk _ _ ihphrase ihtail =>
    intro ts hts
    obtain ⟨l, mid, hl, hbare, hmid⟩ := ihphrase ts hts
    obtain ⟨e, rest, he, hbare', hrest⟩ := ihtail l mid hbare hmid
    exact ⟨e, rest, gives_phraseAt hk hl he, hbare', hrest⟩
  | unary _ _ ih =>
    intro located hts
    obtain ⟨s, more, rfl, hmore⟩ := exists_of_map_eq_cons hts
    obtain ⟨inner, rest, hinner, hbare, hrest⟩ := ih more hmore
    refine ⟨_, rest, (gives_unary_op_iff (unaryOp?_eq_some_iff.2 rfl)).2 ⟨inner, hinner, rfl⟩, ?_,
      hrest⟩
    simp only [Expr.bare, hbare]
  | stop hcontinues =>
    rintro left located hleft rfl
    exact ⟨left, located, tailGives_stop hcontinues, hleft, rfl⟩
  | @binary op l r e ts mid rest s hop _ _ ihright ihtail =>
    intro left located hleft hts
    obtain ⟨level, t, hlevel, htokens⟩ := exists_level hop
    rw [htokens] at hts
    obtain ⟨s, more, rfl, hmore⟩ := exists_of_map_eq_cons hts
    obtain ⟨right, mid, hright, hbare, hmid⟩ := ihright more hmore
    have hjoined : (joined op left right).bare = (Expr.binary s op l r).bare := by
      simp only [joined, Expr.bare, hleft, hbare]
    obtain ⟨whole, rest, hwhole, hbare', hrest⟩ := ihtail _ mid hjoined hmid
    rw [hlevel] at hright hwhole ⊢
    rw [phraseAt_next] at hright
    rw [tailGives_level_iff] at hwhole
    refine ⟨whole, rest, tailGives_level_iff.2 ?_, hbare', hrest⟩
    exact (gives_chainTail_op_iff (op?_eq_some_iff.2 ⟨hlevel, htokens⟩)).2
      ⟨right, mid, hright, hwhole⟩
  | comparison _ hop _ ih =>
    intro left located hleft hts
    obtain ⟨mid, hmid, hvalues⟩ := exists_comparison?_eq_some hop hts
    obtain ⟨right, rest, hright, hbare, hrest⟩ := ih mid hvalues
    refine ⟨_, rest, Or.inl ⟨_, mid, right, hmid, hright, rfl⟩, ?_, hrest⟩
    simp only [joined, Expr.bare, hleft, hbare]
  | conditional _ _ _ ihtrue ihfalse =>
    intro left located hleft hts
    obtain ⟨s, more, rfl, hmore⟩ := exists_of_map_eq_cons hts
    obtain ⟨t, mid, ht, hbare, hmid⟩ := ihtrue more hmore
    obtain ⟨s', mid, rfl, hvalues⟩ := exists_of_map_eq_cons hmid
    obtain ⟨f, rest, hf, hbare', hrest⟩ := ihfalse mid hvalues
    refine ⟨_, rest, Or.inl ⟨s, more, t, s', mid, f, rfl, ht, hf, rfl⟩, ?_, hrest⟩
    simp only [Expr.bare, hleft, hbare, hbare']
  | @property e whole n ts rest s hhead _ ih =>
    intro left located hleft hts
    obtain ⟨s₁, more, rfl, hmore⟩ := exists_of_map_eq_cons hts
    obtain ⟨s₂, more, rfl, rfl⟩ := exists_of_map_eq_cons hmore
    have hproperty : (Expr.property (left.span.merge s₂) left n).bare =
        (Expr.property s e n).bare := by
      simp only [Expr.bare, hleft]
    obtain ⟨whole, rest, hwhole, hbare, hrest⟩ := ih _ more hproperty rfl
    exact ⟨whole, rest, (gives_property_iff (head?_ne_iff.1 hhead)).2 hwhole, hbare, hrest⟩
  | @method e whole n args ts mid rest s _ _ ihargs ihtail =>
    intro left located hleft hts
    obtain ⟨s₁, _, rfl, hname⟩ := exists_of_map_eq_cons hts
    obtain ⟨s₂, _, rfl, hparen⟩ := exists_of_map_eq_cons hname
    obtain ⟨s₃, more, rfl, hmore⟩ := exists_of_map_eq_cons hparen
    obtain ⟨args', stop, mid, hargs, hbare, hmid⟩ :=
      ihargs (by simp [Token.Closing]) "method arguments" more hmore
    have hmethod : (Expr.method (left.span.merge stop) left n args').bare =
        (Expr.method s e n args).bare := by
      simp only [Expr.bare, hleft, hbare]
    obtain ⟨whole, rest, hwhole, hbare', hrest⟩ := ihtail _ mid hmethod hmid
    exact ⟨whole, rest, gives_method_iff.2 ⟨args', stop, mid, hargs, hwhole⟩, hbare', hrest⟩
  | @call e whole args ts mid rest s _ _ ihargs ihtail =>
    intro left located hleft hts
    obtain ⟨s₁, more, rfl, hmore⟩ := exists_of_map_eq_cons hts
    obtain ⟨args', stop, mid, hargs, hbare, hmid⟩ :=
      ihargs (by simp [Token.Closing]) "call arguments" more hmore
    have hcall : (Expr.call (left.span.merge stop) left args').bare =
        (Expr.call s e args).bare := by
      simp only [Expr.bare, hleft, hbare]
    obtain ⟨whole, rest, hwhole, hbare', hrest⟩ := ihtail _ mid hcall hmid
    exact ⟨whole, rest, gives_call_iff.2 ⟨args', stop, mid, hargs, hwhole⟩, hbare', hrest⟩
  | @index e key whole ts mid rest s _ _ ihkey ihtail =>
    intro left located hleft hts
    obtain ⟨s₁, more, rfl, hmore⟩ := exists_of_map_eq_cons hts
    obtain ⟨key', mid, hkey, hbare, hmid⟩ := ihkey more hmore
    obtain ⟨stop, mid, rfl, hvalues⟩ := exists_of_map_eq_cons hmid
    have hindex : (Expr.index (left.span.merge stop) left key').bare =
        (Expr.index s e key).bare := by
      simp only [Expr.bare, hleft, hbare]
    obtain ⟨whole, rest, hwhole, hbare', hrest⟩ := ihtail _ mid hindex hvalues
    exact ⟨whole, rest, gives_index_iff.2 ⟨key', stop, mid, hkey, hwhole⟩, hbare', hrest⟩
  | literal ht =>
    intro located hts
    obtain ⟨s, more, rfl, hmore⟩ := exists_of_map_eq_cons hts
    obtain ⟨e, he, hbare⟩ := exists_gives_literal s more ht
    exact ⟨e, more, he, hbare, hmore⟩
  | name _ hhead =>
    intro located hts
    obtain ⟨s, more, rfl, rfl⟩ := exists_of_map_eq_cons hts
    exact ⟨_, more, (gives_name_iff (head?_ne_iff.1 hhead)).2 ⟨rfl, rfl⟩, rfl, rfl⟩
  | closure _ _ ih =>
    intro located hts
    obtain ⟨s, _, rfl, harrow⟩ := exists_of_map_eq_cons hts
    obtain ⟨s', more, rfl, hmore⟩ := exists_of_map_eq_cons harrow
    obtain ⟨body, rest, hbody, hbare, hrest⟩ := ih more hmore
    refine ⟨_, rest, gives_closure_iff.2 ⟨body, hbody, rfl⟩, ?_, hrest⟩
    simp only [Expr.bare, hbare]
  | list _ _ ih =>
    intro located hts
    obtain ⟨s, more, rfl, hmore⟩ := exists_of_map_eq_cons hts
    obtain ⟨es, stop, rest, hes, hbare, hrest⟩ :=
      ih (by simp [Token.Closing]) "list literal" more hmore
    refine ⟨_, rest, gives_list_iff.2 ⟨es, stop, hes, rfl⟩, ?_, hrest⟩
    simp only [Expr.bare, hbare]
  | map _ _ ih =>
    intro located hts
    obtain ⟨s, more, rfl, hmore⟩ := exists_of_map_eq_cons hts
    obtain ⟨es, stop, rest, hes, hbare, hrest⟩ := ih more hmore
    refine ⟨_, rest, gives_map_iff.2 ⟨es, stop, hes, rfl⟩, ?_, hrest⟩
    simp only [Expr.bare, hbare]
  | paren _ ih =>
    intro located hts
    obtain ⟨s, more, rfl, hmore⟩ := exists_of_map_eq_cons hts
    obtain ⟨e, mid, he, hbare, hmid⟩ := ih more hmore
    obtain ⟨s', rest, rfl, hrest⟩ := exists_of_map_eq_cons hmid
    exact ⟨e, rest, gives_paren_iff.2 ⟨s', he⟩, hbare, hrest⟩
  | noItem =>
    intro hclose context located hts
    obtain ⟨s, more, rfl, hmore⟩ := exists_of_map_eq_cons hts
    exact ⟨[], s, more, (gives_items_close_iff hclose).2 ⟨rfl, rfl, rfl⟩, rfl, hmore⟩
  | lastItem hread ih =>
    intro hclose context located hts
    obtain ⟨e, mid, he, hbare, hmid⟩ := ih located hts
    obtain ⟨s, rest, rfl, hrest⟩ := exists_of_map_eq_cons hmid
    have hhead := head_ne_close hclose hread hts
    refine ⟨[e], s, rest, (gives_items_iff hclose hhead).2 ⟨e, _, he, Or.inr ⟨rfl, rfl⟩⟩, ?_, hrest⟩
    simp only [Expr.bareItems, hbare]
  | item hread _ ihfirst ihmore =>
    intro hclose context located hts
    obtain ⟨e, mid, he, hbare, hmid⟩ := ihfirst located hts
    obtain ⟨s, more, rfl, hmore⟩ := exists_of_map_eq_cons hmid
    obtain ⟨es, stop, rest, hes, hbare', hrest⟩ := ihmore hclose context more hmore
    have hhead := head_ne_close hclose hread hts
    refine ⟨e :: es, stop, rest, (gives_items_iff hclose hhead).2
      ⟨e, _, he, Or.inl ⟨s, more, es, rfl, hes, rfl⟩⟩, ?_, hrest⟩
    simp only [Expr.bareItems, hbare, hbare']
  | noEntry =>
    intro located hts
    obtain ⟨s, more, rfl, hmore⟩ := exists_of_map_eq_cons hts
    exact ⟨[], s, more, gives_entries_close_iff.2 ⟨rfl, rfl, rfl⟩, rfl, hmore⟩
  | lastEntry hkey _ ih =>
    intro located hts
    obtain ⟨s₁, _, rfl, hcolon⟩ := exists_of_map_eq_cons hts
    obtain ⟨s₂, more, rfl, hmore⟩ := exists_of_map_eq_cons hcolon
    obtain ⟨e, mid, he, hbare, hmid⟩ := ih more hmore
    obtain ⟨s, rest, rfl, hrest⟩ := exists_of_map_eq_cons hmid
    refine ⟨[(_, e)], s, rest, (gives_entries_iff hkey).2
      ⟨s₂, more, rfl, e, _, he, Or.inr ⟨rfl, rfl⟩⟩, ?_, hrest⟩
    simp only [Expr.bareEntries, hbare]
  | entry hkey _ _ ihfirst ihmore =>
    intro located hts
    obtain ⟨s₁, _, rfl, hcolon⟩ := exists_of_map_eq_cons hts
    obtain ⟨s₂, more, rfl, hmore⟩ := exists_of_map_eq_cons hcolon
    obtain ⟨e, mid, he, hbare, hmid⟩ := ihfirst more hmore
    obtain ⟨s, more', rfl, hmore'⟩ := exists_of_map_eq_cons hmid
    obtain ⟨es, stop, rest, hes, hbare', hrest⟩ := ihmore more' hmore'
    refine ⟨(_, e) :: es, stop, rest, (gives_entries_iff hkey).2
      ⟨s₂, more, rfl, e, _, he, Or.inl ⟨s, more', es, rfl, hes, rfl⟩⟩, ?_, hrest⟩
    simp only [Expr.bareEntries, hbare, hbare']

end Parser

namespace Expr

variable {ts : Tokens} {e : Expr}

theorem ofTokens_eq_ok_iff : ofTokens ts = .ok e ↔ Parser.Gives (Parser.expression ts) e [] := by
  unfold ofTokens Parser.Gives
  constructor
  · intro h
    rcases hrun : Parser.expression ts with _ | ⟨e', rest, hrest⟩ <;> rw [hrun] at h
    · cases h
    · cases rest with
      | nil =>
        cases h
        exact ⟨hrest, rfl⟩
      | cons found more => cases h
  · rintro ⟨hrest, hrun⟩
    rw [hrun]
    rfl

theorem reads_of_ofTokens (h : ofTokens ts = .ok e) :
    Reads (.phrase .conditional e) (ts.map Located.value) [] :=
  Parser.reads_of_gives (k := .conditional) (ofTokens_eq_ok_iff.1 h)

theorem ofTokens_of_reads (h : Reads (.phrase .conditional e) (ts.map Located.value) []) :
    ∃ e', ofTokens ts = .ok e' ∧ e'.bare = e.bare := by
  obtain ⟨e', rest, he, hbare, hrest⟩ := Parser.given h ts rfl
  obtain rfl := List.map_eq_nil_iff.1 hrest
  exact ⟨e', ofTokens_eq_ok_iff.2 he, hbare⟩

end Expr

end ReleaseAudit
