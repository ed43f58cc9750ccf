import ReleaseAudit.Proofs.Expr.Reading

/-!
# What the parser gives

Every function of the parser is described by what it gives, a result and the tokens behind it, in
terms of what the functions that it calls give. The proofs that there are fewer tokens are left behind
here.
-/

namespace ReleaseAudit

namespace Parser

variable {n m : Nat} {α β : Type}

/-- The parser takes `a` and leaves `rest`. -/
def Gives (o : Outcome (Taken n α)) (a : α) (rest : Tokens) : Prop := ∃ h, o = .ok ⟨a, rest, h⟩

theorem exists_eq_ok_iff {o : Outcome (Taken n α)} {a : α} {rest : Tokens} :
    (∃ h, o = .ok ⟨a, rest, h⟩) ↔ Gives o a rest := Iff.rfl

theorem Gives.shorter {o : Outcome (Taken n α)} {a : α} {rest : Tokens} (h : Gives o a rest) :
    rest.length < n := h.1

theorem gives_bind_iff {x : Outcome (Taken n α)} {f : Taken n α → Outcome (Taken m β)} {b : β}
    {rest : Tokens} :
    Gives (x >>= f) b rest ↔ ∃ a mid, ∃ h, x = .ok ⟨a, mid, h⟩ ∧ Gives (f ⟨a, mid, h⟩) b rest := by
  cases x with
  | error e =>
    constructor
    · rintro ⟨_, h⟩
      cases h
    · rintro ⟨_, _, _, h, _⟩
      cases h
  | ok t =>
    constructor
    · intro h
      exact ⟨t.value, t.rest, t.shorter, rfl, h⟩
    · rintro ⟨a, mid, h, heq, hf⟩
      cases heq
      exact hf

theorem gives_bind {x : Outcome (Taken n α)} {f : Taken n α → Outcome (Taken m β)} {b : β}
    {rest : Tokens} {P : α → Tokens → Prop}
    (hf : ∀ a mid h, Gives (f ⟨a, mid, h⟩) b rest ↔ P a mid) :
    Gives (x >>= f) b rest ↔ ∃ a mid, Gives x a mid ∧ P a mid := by
  simp only [gives_bind_iff, hf, exists_and_right, exists_eq_ok_iff]

theorem gives_ok_iff {a b : α} {ts rest : Tokens} {h : ts.length < n} :
    Gives (.ok ⟨a, ts, h⟩ : Outcome (Taken n α)) b rest ↔ b = a ∧ rest = ts := by
  constructor
  · rintro ⟨_, heq⟩
    cases heq
    exact ⟨rfl, rfl⟩
  · rintro ⟨rfl, rfl⟩
    exact ⟨h, rfl⟩

theorem gives_pure_iff {a b : α} {ts rest : Tokens} {h : ts.length < n} :
    Gives (pure ⟨a, ts, h⟩ : Outcome (Taken n α)) b rest ↔ b = a ∧ rest = ts := gives_ok_iff

theorem not_gives_error {e : ParseError} {a : α} {rest : Tokens} :
    ¬ Gives (.error e : Outcome (Taken n α)) a rest := by
  rintro ⟨_, h⟩
  cases h

/-- A parser that changes the result of another one and takes no more tokens. -/
theorem gives_bind_pure {x : Outcome (Taken n α)} {k : Taken n α → Outcome (Taken m β)} {f : α → β}
    {b : β} {rest : Tokens} (hk : ∀ a mid h, ∃ h', k ⟨a, mid, h⟩ = pure ⟨f a, mid, h'⟩) :
    Gives (x >>= k) b rest ↔ ∃ a, Gives x a rest ∧ b = f a := by
  have hpure (a : α) (mid : Tokens) (h : mid.length < n) :
      Gives (k ⟨a, mid, h⟩) b rest ↔ b = f a ∧ rest = mid := by
    obtain ⟨h', heq⟩ := hk a mid h
    rw [heq, gives_pure_iff]
  rw [gives_bind hpure]
  constructor
  · rintro ⟨a, mid, ha, hb, rfl⟩
    exact ⟨a, ha, hb⟩
  · rintro ⟨a, ha, hb⟩
    exact ⟨a, rest, ha, hb, rfl⟩

theorem gives_expect_iff {t : Token} (ht : t.Inner) {context : String} {ts rest : Tokens}
    {s : Span} : Gives (expect t context ts) s rest ↔ ts = ⟨t, s⟩ :: rest := by
  cases ts with
  | nil => exact iff_of_false not_gives_error (by simp)
  | cons found ts =>
    obtain ⟨u, s'⟩ := found
    simp only [expect]
    split
    case isTrue heq =>
      obtain rfl := ht.beq_iff.1 heq
      simp [gives_ok_iff, eq_comm]
    case isFalse hne =>
      refine iff_of_false not_gives_error fun h ↦ ?_
      cases h
      exact hne (ht.beq_iff.2 rfl)

theorem exists_of_map_eq_cons {ts : Tokens} {t : Token} {w : List Token}
    (h : ts.map Located.value = t :: w) :
    ∃ s more, ts = ⟨t, s⟩ :: more ∧ more.map Located.value = w := by
  obtain ⟨⟨_, s⟩, more, rfl, rfl, hmore⟩ := List.map_eq_cons_iff.1 h
  exact ⟨s, more, rfl, hmore⟩

/-! ## The functions of the parser -/

theorem gives_chain_iff {level : Level} {ts : Tokens} {e : Expr} {rest : Tokens} :
    Gives (chain level ts) e rest ↔
      ∃ l mid, Gives (operand level ts) l mid ∧ Gives (chainTail level l mid) e rest := by
  rw [chain]
  simp only [gives_bind_iff, gives_pure_iff, exists_and_right, exists_eq_ok_iff]
  simp

theorem gives_chainTail_nil_iff {level : Level} {left e : Expr} {rest : Tokens} :
    Gives (chainTail level left []) e rest ↔ e = left ∧ rest = [] := by
  rw [chainTail, gives_ok_iff]

theorem gives_chainTail_stop_iff {level : Level} {left e : Expr} {t : Located Token}
    {ts rest : Tokens} (hop : level.op? t.value = none) :
    Gives (chainTail level left (t :: ts)) e rest ↔ e = left ∧ rest = t :: ts := by
  rw [chainTail]
  split
  · exact gives_ok_iff
  · simp_all

theorem gives_chainTail_op_iff {level : Level} {left e : Expr} {t : Located Token}
    {ts rest : Tokens} {op : BinaryOp} (hop : level.op? t.value = some op) :
    Gives (chainTail level left (t :: ts)) e rest ↔
      ∃ r mid, Gives (operand level ts) r mid ∧
        Gives (chainTail level (joined op left r) mid) e rest := by
  rw [chainTail]
  split
  · simp_all
  · next op' hop' =>
    cases hop.symm.trans hop'
    simp only [gives_bind_iff, gives_pure_iff, exists_and_right, exists_eq_ok_iff]
    simp

theorem gives_suffixed_iff {ts : Tokens} {e : Expr} {rest : Tokens} :
    Gives (suffixed ts) e rest ↔
      ∃ l mid, Gives (primary ts) l mid ∧ Gives (suffixes l mid) e rest := by
  rw [suffixed]
  simp only [gives_bind_iff, gives_pure_iff, exists_and_right, exists_eq_ok_iff]
  simp

theorem head?_ne_iff {t : Token} {ts : Tokens} :
    (ts.map Located.value).head? ≠ some t ↔ ∀ s more, ts ≠ ⟨t, s⟩ :: more := by
  constructor
  · rintro h s more rfl
    exact h rfl
  · intro h heq
    cases ts with
    | nil => cases heq
    | cons found more =>
      cases heq
      exact h found.span more rfl

theorem gives_method_iff {e whole : Expr} {name : String} {s₁ s₂ s₃ : Span} {ts rest : Tokens} :
    Gives (suffixes e (⟨.dot, s₁⟩ :: ⟨.name name, s₂⟩ :: ⟨.leftParen, s₃⟩ :: ts)) whole rest ↔
      ∃ args stop mid, Gives (items .rightParen "method arguments" ts) (args, stop) mid ∧
        Gives (suffixes (.method (e.span.merge stop) e name args) mid) whole rest := by
  rw [suffixes]
  simp only [gives_bind_iff, gives_pure_iff, exists_and_right, exists_eq_ok_iff]
  simp

theorem gives_property_iff {e whole : Expr} {name : String} {s₁ s₂ : Span} {ts rest : Tokens}
    (hts : ∀ s more, ts ≠ ⟨.leftParen, s⟩ :: more) :
    Gives (suffixes e (⟨.dot, s₁⟩ :: ⟨.name name, s₂⟩ :: ts)) whole rest ↔
      Gives (suffixes (.property (e.span.merge s₂) e name) ts) whole rest := by
  rw [suffixes]
  simp only [gives_bind_iff, gives_pure_iff, exists_and_right, exists_eq_ok_iff]
  simp
  exact hts

theorem gives_call_iff {e whole : Expr} {s : Span} {ts rest : Tokens} :
    Gives (suffixes e (⟨.leftParen, s⟩ :: ts)) whole rest ↔
      ∃ args stop mid, Gives (items .rightParen "call arguments" ts) (args, stop) mid ∧
        Gives (suffixes (.call (e.span.merge stop) e args) mid) whole rest := by
  rw [suffixes]
  simp only [gives_bind_iff, gives_pure_iff, exists_and_right, exists_eq_ok_iff]
  simp

theorem gives_index_iff {e whole : Expr} {s : Span} {ts rest : Tokens} :
    Gives (suffixes e (⟨.leftBracket, s⟩ :: ts)) whole rest ↔
      ∃ key stop mid, Gives (expression ts) key (⟨.rightBracket, stop⟩ :: mid) ∧
        Gives (suffixes (.index (e.span.merge stop) e key) mid) whole rest := by
  rw [suffixes]
  have hclose : Token.rightBracket.Inner := by simp [Token.Inner]
  simp only [gives_bind_iff, gives_pure_iff, exists_and_right, exists_eq_ok_iff,
    gives_expect_iff hclose]
  constructor
  · rintro ⟨key, _, hkey, stop, mid, rfl, _, _, htail, rfl, rfl⟩
    exact ⟨key, stop, mid, hkey, htail⟩
  · rintro ⟨key, stop, mid, hkey, htail⟩
    exact ⟨key, _, hkey, stop, mid, rfl, whole, rest, htail, rfl, rfl⟩

theorem gives_suffixes_stop_iff {e whole : Expr} {ts rest : Tokens}
    (hts : continues (ts.map Located.value) ≠ some .suffixed) :
    Gives (suffixes e ts) whole rest ↔ whole = e ∧ rest = ts := by
  rw [suffixes]
  · exact gives_ok_iff
  all_goals
    intros
    subst_vars
    exact hts rfl

theorem gives_expression_iff {ts : Tokens} {e : Expr} {rest : Tokens} :
    Gives (expression ts) e rest ↔ ∃ c mid, Gives (chain .disjunctive ts) c mid ∧
      ((∃ s more t s' mid' f, mid = ⟨.question, s⟩ :: more ∧
          Gives (expression more) t (⟨.colon, s'⟩ :: mid') ∧ Gives (expression mid') f rest ∧
            e = .conditional (c.span.merge f.span) c t f) ∨
        (∀ s more, mid ≠ ⟨.question, s⟩ :: more) ∧ e = c ∧ rest = mid) := by
  rw [expression]
  refine gives_bind fun c mid h ↦ ?_
  have hcolon : Token.colon.Inner := by simp [Token.Inner]
  dsimp only
  split
  case h_1 s more h' =>
    simp only [gives_bind_iff, gives_pure_iff, exists_and_right, exists_eq_ok_iff,
      gives_expect_iff hcolon]
    constructor
    · rintro ⟨t, _, ht, s', mid', rfl, f, _, hf, rfl, rfl⟩
      exact Or.inl ⟨s, more, t, s', mid', f, rfl, ht, hf, rfl⟩
    · rintro (⟨_, _, t, s', mid', f, heq, ht, hf, rfl⟩ | ⟨hne, _⟩)
      · cases heq
        exact ⟨t, _, ht, s', mid', rfl, f, rest, hf, rfl, rfl⟩
      · exact absurd rfl (hne s more)
  case h_2 hne =>
    have hend (s : Span) (more : Tokens) : mid ≠ ⟨.question, s⟩ :: more := by
      rintro rfl
      exact hne s more h rfl HEq.rfl
    rw [gives_pure_iff]
    constructor
    · intro heq
      exact Or.inr ⟨hend, heq⟩
    · rintro (⟨s, more, _, _, _, _, heq, _⟩ | ⟨_, heq⟩)
      · exact absurd heq (hend s more)
      · exact heq

theorem gives_comparison_iff {ts : Tokens} {e : Expr} {rest : Tokens} :
    Gives (comparison ts) e rest ↔ ∃ l mid, Gives (chain .additive ts) l mid ∧
      ((∃ op mid' r, comparison? mid = some (op, mid') ∧ Gives (chain .additive mid') r rest ∧
          e = joined op l r) ∨
        comparison? mid = none ∧ e = l ∧ rest = mid) := by
  rw [comparison]
  refine gives_bind fun l mid h ↦ ?_
  dsimp only
  split
  case h_1 hop => simp [hop, gives_pure_iff]
  case h_2 op mid' hop =>
    rw [gives_bind_pure (f := joined op l) fun _ _ _ ↦ ⟨_, rfl⟩, hop]
    constructor
    · rintro ⟨r, hr, rfl⟩
      exact Or.inl ⟨op, mid', r, rfl, hr, rfl⟩
    · rintro (⟨_, _, r, heq, hr, rfl⟩ | ⟨heq, _⟩)
      · cases heq
        exact ⟨r, hr, rfl⟩
      · cases heq

theorem gives_unary_op_iff {t : Located Token} {op : UnaryOp} {ts rest : Tokens} {e : Expr}
    (hop : unaryOp? t.value = some op) :
    Gives (unary (t :: ts)) e rest ↔
      ∃ inner, Gives (unary ts) inner rest ∧ e = .unary (t.span.merge inner.span) op inner := by
  rw [unary]
  split
  · simp_all
  · next op' hop' =>
    cases hop.symm.trans hop'
    exact gives_bind_pure fun inner mid h ↦ ⟨_, rfl⟩

theorem unary_eq_suffixed {ts : Tokens} (hts : ∀ t more, ts = t :: more → unaryOp? t.value = none) :
    unary ts = suffixed ts := by
  cases ts with
  | nil => rw [unary]
  | cons t more =>
    rw [unary]
    split
    · rfl
    · next op hop => simp [hts t more rfl] at hop

theorem gives_closure_iff {name : String} {s s' : Span} {ts rest : Tokens} {e : Expr} :
    Gives (primary (⟨.name name, s⟩ :: ⟨.arrow, s'⟩ :: ts)) e rest ↔
      ∃ body, Gives (expression ts) body rest ∧ e = .closure (s.merge body.span) name body := by
  rw [primary]
  exact gives_bind_pure fun body mid h ↦ ⟨_, rfl⟩

theorem gives_name_iff {name : String} {s : Span} {ts rest : Tokens} {e : Expr}
    (hts : ∀ s more, ts ≠ ⟨.arrow, s⟩ :: more) :
    Gives (primary (⟨.name name, s⟩ :: ts)) e rest ↔ e = .name s name ∧ rest = ts := by
  rw [primary]
  · exact gives_ok_iff
  · exact hts

theorem gives_list_iff {s : Span} {ts rest : Tokens} {e : Expr} :
    Gives (primary (⟨.leftBracket, s⟩ :: ts)) e rest ↔
      ∃ es stop, Gives (items .rightBracket "list literal" ts) (es, stop) rest ∧
        e = .list (s.merge stop) es := by
  rw [primary]
  exact (gives_bind_pure (f := fun found ↦ .list (s.merge found.2) found.1)
    fun _ _ _ ↦ ⟨_, rfl⟩).trans Prod.exists

theorem gives_map_iff {s : Span} {ts rest : Tokens} {e : Expr} :
    Gives (primary (⟨.leftBrace, s⟩ :: ts)) e rest ↔
      ∃ es stop, Gives (entries ts) (es, stop) rest ∧ e = .map (s.merge stop) es := by
  rw [primary]
  exact (gives_bind_pure (f := fun found ↦ .map (s.merge found.2) found.1)
    fun _ _ _ ↦ ⟨_, rfl⟩).trans Prod.exists

theorem gives_paren_iff {s : Span} {ts rest : Tokens} {e : Expr} :
    Gives (primary (⟨.leftParen, s⟩ :: ts)) e rest ↔
      ∃ s', Gives (expression ts) e (⟨.rightParen, s'⟩ :: rest) := by
  have hclose : Token.rightParen.Inner := by simp [Token.Inner]
  rw [primary]
  simp only [gives_bind_iff, gives_pure_iff, exists_and_right, exists_eq_ok_iff,
    gives_expect_iff hclose]
  constructor
  · rintro ⟨e', _, he, s', _, rfl, rfl, rfl⟩
    exact ⟨s', he⟩
  · rintro ⟨s', he⟩
    exact ⟨e, _, he, s', rest, rfl, rfl, rfl⟩

theorem gives_items_close_iff {close : Token} {context : String} (hclose : close.Closing)
    {ts rest : Tokens} {s stop : Span} {es : List Expr} :
    Gives (items close context (⟨close, s⟩ :: ts)) (es, stop) rest ↔
      es = [] ∧ stop = s ∧ rest = ts := by
  have hhead : (close == close) = true := hclose.inner.beq_iff.2 rfl
  rw [items, if_pos (by simpa using hhead)]
  rw [gives_bind_pure (f := fun s ↦ ([], s)) fun _ _ _ ↦ ⟨_, rfl⟩]
  simp only [gives_expect_iff hclose.inner]
  constructor
  · rintro ⟨_, heq, hes⟩
    cases heq
    cases hes
    exact ⟨rfl, rfl, rfl⟩
  · rintro ⟨rfl, rfl, rfl⟩
    exact ⟨stop, rfl, rfl⟩

/-- Behind an element of a list comes its end or a comma and the elements left. -/
theorem gives_items_iff {close : Token} {context : String} (hclose : close.Closing)
    {ts rest : Tokens} {es : List Expr} {stop : Span}
    (hts : ∃ t more, ts = t :: more ∧ t.value ≠ close) :
    Gives (items close context ts) (es, stop) rest ↔
      ∃ e mid, Gives (expression ts) e mid ∧
        ((∃ s more es', mid = ⟨.comma, s⟩ :: more ∧
            Gives (items close context more) (es', stop) rest ∧ es = e :: es') ∨
          es = [e] ∧ mid = ⟨close, stop⟩ :: rest) := by
  obtain ⟨t, more, rfl, hne⟩ := hts
  have hhead : ¬ (t.value == close) = true := fun h ↦ hne (hclose.inner.beq_iff.1 h)
  rw [items, if_neg (by simpa using hhead)]
  refine gives_bind fun e mid h ↦ ?_
  dsimp only
  split
  case h_1 s more h' =>
    rw [gives_bind_pure (f := fun found ↦ (e :: found.1, found.2)) fun _ _ _ ↦ ⟨_, rfl⟩]
    constructor
    · rintro ⟨⟨es', _⟩, hes, heq⟩
      cases heq
      exact Or.inl ⟨s, more, es', rfl, hes, rfl⟩
    · rintro (⟨_, _, es', heq, hes, rfl⟩ | ⟨_, heq⟩)
      · cases heq
        exact ⟨(es', stop), hes, rfl⟩
      · cases heq
        exact absurd rfl hclose.ne_comma
  case h_2 hend =>
    rw [gives_bind_pure (f := fun s ↦ ([e], s)) fun _ _ _ ↦ ⟨_, rfl⟩]
    simp only [gives_expect_iff hclose.inner]
    constructor
    · rintro ⟨_, rfl, heq⟩
      cases heq
      exact Or.inr ⟨rfl, rfl⟩
    · rintro (⟨s, more, _, rfl, _⟩ | ⟨rfl, rfl⟩)
      · exact (hend s more h rfl HEq.rfl).elim
      · exact ⟨stop, rfl, rfl⟩

theorem gives_entries_close_iff {ts rest : Tokens} {s stop : Span} {es : List (String × Expr)} :
    Gives (entries (⟨.rightBrace, s⟩ :: ts)) (es, stop) rest ↔ es = [] ∧ stop = s ∧ rest = ts := by
  rw [entries, gives_ok_iff, Prod.mk.injEq, and_assoc]

theorem gives_entries_iff {t : Located Token} {key : String} (hkey : mapKey? t.value = some key)
    {ts rest : Tokens} {es : List (String × Expr)} {stop : Span} :
    Gives (entries (t :: ts)) (es, stop) rest ↔
      ∃ s more, ts = ⟨.colon, s⟩ :: more ∧ ∃ e mid, Gives (expression more) e mid ∧
        ((∃ s' more' es', mid = ⟨.comma, s'⟩ :: more' ∧ Gives (entries more') (es', stop) rest ∧
            es = (key, e) :: es') ∨
          es = [(key, e)] ∧ mid = ⟨.rightBrace, stop⟩ :: rest) := by
  have hcolon : Token.colon.Inner := by simp [Token.Inner]
  have hclose : Token.rightBrace.Inner := by simp [Token.Inner]
  have hne (s : Span) : t = ⟨.rightBrace, s⟩ → False := by
    rintro rfl
    cases hkey
  rw [entries.eq_3 _ _ hne]
  split
  case h_1 hnone => simp [hkey] at hnone
  case h_2 key' hkey' =>
    cases hkey.symm.trans hkey'
    refine Iff.trans (gives_bind fun s more h ↦ gives_bind fun e mid h' ↦ ?behind)
      (exists_congr fun s ↦ exists_congr fun more ↦ and_congr (gives_expect_iff hcolon) Iff.rfl)
    dsimp only
    split
    case h_1 s' more' h'' =>
      rw [gives_bind_pure (f := fun found ↦ ((key, e) :: found.1, found.2)) fun _ _ _ ↦ ⟨_, rfl⟩]
      constructor
      · rintro ⟨⟨es', _⟩, hes, heq⟩
        cases heq
        exact Or.inl ⟨s', more', es', rfl, hes, rfl⟩
      · rintro (⟨_, _, es', heq, hes, rfl⟩ | ⟨_, heq⟩)
        · cases heq
          exact ⟨(es', stop), hes, rfl⟩
        · cases heq
    case h_2 hend =>
      rw [gives_bind_pure (f := fun s ↦ ([(key, e)], s)) fun _ _ _ ↦ ⟨_, rfl⟩]
      simp only [gives_expect_iff hclose]
      constructor
      · rintro ⟨_, rfl, heq⟩
        cases heq
        exact Or.inr ⟨rfl, rfl⟩
      · rintro (⟨s', more', _, rfl, _⟩ | ⟨rfl, rfl⟩)
        · exact (hend s' more' h' rfl HEq.rfl).elim
        · exact ⟨stop, rfl, rfl⟩

end Parser

end ReleaseAudit
