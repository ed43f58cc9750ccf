import ReleaseAudit.Proofs.Expr.Outcome

/-!
# The parser reads

Whatever the functions of the parser give can be read, up to the places of tokens. The induction is
that of the parser: every case takes apart what one branch gives and puts the readings of its calls
together.
-/

namespace ReleaseAudit

namespace Parser

variable {n : Nat} {α : Type}

/-! ## Operators -/

def Level.precedence : Level → Precedence
  | disjunctive => .disjunctive
  | conjunctive => .conjunctive
  | additive => .additive
  | multiplicative => .multiplicative

theorem unaryOp?_eq_some_iff {t : Token} {op : UnaryOp} : unaryOp? t = some op ↔ t = op.token := by
  constructor
  · intro h
    unfold unaryOp? at h
    split at h <;> cases h <;> rfl
  · rintro rfl
    cases op <;> rfl

theorem op?_eq_some_iff {level : Level} {t : Token} {op : BinaryOp} :
    level.op? t = some op ↔ op.precedence = level.precedence ∧ op.tokens = [t] := by
  constructor
  · intro h
    unfold Level.op? at h
    split at h <;> cases h <;> exact ⟨rfl, rfl⟩
  · rintro ⟨hlevel, htokens⟩
    cases op <;> cases level <;> cases hlevel <;> cases htokens <;> rfl

theorem op?_eq_none_iff {level : Level} {t : Token} {ts : List Token} :
    level.op? t = none ↔ continues (t :: ts) ≠ some level.precedence := by
  constructor
  · intro hnone hsome
    obtain ⟨op, w, hop, hts⟩ := exists_op_of_continues hsome (by cases level <;> decide)
      (by cases level <;> decide)
    have htokens : op.tokens = [t] := by
      cases op <;> cases level <;> cases hop <;> cases hts <;> rfl
    simp [op?_eq_some_iff.2 ⟨hop, htokens⟩] at hnone
  · intro hne
    cases hop : level.op? t with
    | none => rfl
    | some op =>
      obtain ⟨hlevel, htokens⟩ := op?_eq_some_iff.1 hop
      have hcontinues := continues_tokens op ts
      rw [htokens, hlevel] at hcontinues
      exact absurd hcontinues hne

theorem comparison?_eq_some {ts mid : Tokens} {op : BinaryOp} (h : comparison? ts = some (op, mid)) :
    op.precedence = .comparative ∧
      ts.map Located.value = op.tokens ++ mid.map Located.value := by
  unfold comparison? at h
  split at h <;> cases h <;> exact ⟨rfl, rfl⟩

theorem exists_comparison?_eq_some {ts : Tokens} {op : BinaryOp} {w : List Token}
    (hop : op.precedence = .comparative) (hts : ts.map Located.value = op.tokens ++ w) :
    ∃ mid, comparison? ts = some (op, mid) ∧ mid.map Located.value = w := by
  cases op <;> cases hop
  case notIn =>
    obtain ⟨s, _, rfl, hrest⟩ := exists_of_map_eq_cons hts
    obtain ⟨s', mid, rfl, hmid⟩ := exists_of_map_eq_cons hrest
    exact ⟨mid, rfl, hmid⟩
  all_goals
    obtain ⟨s, mid, rfl, hmid⟩ := exists_of_map_eq_cons hts
    exact ⟨mid, rfl, hmid⟩

theorem comparison?_eq_none_iff {ts : Tokens} :
    comparison? ts = none ↔ continues (ts.map Located.value) ≠ some .comparative := by
  constructor
  · intro hnone hsome
    obtain ⟨op, w, hop, hts⟩ := exists_op_of_continues hsome (by decide) (by decide)
    obtain ⟨mid, hmid, _⟩ := exists_comparison?_eq_some hop hts
    simp [hnone] at hmid
  · intro hne
    cases hop : comparison? ts with
    | none => rfl
    | some found =>
      obtain ⟨hprec, hts⟩ := comparison?_eq_some hop
      exact absurd (by rw [hts, continues_tokens, hprec]) hne

/-! ## Whatever the parser gives can be read -/

/-- The result `o` of a parser that starts at `ts` can be read as `goal`. -/
def Readable (goal : α → Goal) (ts : Tokens) (o : Outcome (Taken n α)) : Prop :=
  ∀ a rest, Gives o a rest → Reads (goal a) (ts.map Located.value) (rest.map Located.value)

theorem readable : (∀ ts, Readable (.phrase .conditional) ts (expression ts)) ∧
    (∀ level ts, Readable (.phrase level.precedence) ts (chain level ts)) ∧
    (∀ level left ts, Readable (.tail level.precedence left) ts (chainTail level left ts)) ∧
    (∀ level ts, Readable (.phrase level.precedence.next) ts (operand level ts)) ∧
    (∀ ts, Readable (.phrase .unary) ts (unary ts)) ∧
    (∀ ts, Readable (.phrase .suffixed) ts (suffixed ts)) ∧
    (∀ left ts, Readable (.tail .suffixed left) ts (suffixes left ts)) ∧
    (∀ close context ts, close.Closing →
      Readable (fun es ↦ .items close es.1) ts (items close context ts)) ∧
    (∀ ts, Readable (.phrase .primary) ts (primary ts)) ∧
    (∀ ts, Readable (fun es ↦ .entries es.1) ts (entries ts)) ∧
    ∀ ts, Readable (.phrase .comparative) ts (comparison ts) := by
  refine expression.mutual_induct _ _ _ _ _ _ _ _ _ _ _ ?expression ?chain ?tailNil ?tailStop ?tailOp
    ?disjunctive ?conjunctive ?additive ?multiplicative ?unaryNil ?unaryNone ?unaryOp ?suffixed
    ?method ?property ?member ?memberNil ?call ?index ?suffixesStop ?itemsClose ?items ?primaryNil
    ?true ?false ?null ?number ?string ?closure ?name ?list ?map ?paren ?primaryOther ?entriesNil
    ?entriesClose ?entriesOther ?entries ?comparison
  case expression =>
    intro ts ihcondition ihtrue ihfalse e rest h
    obtain ⟨c, mid, hc, hmid⟩ := gives_expression_iff.1 h
    refine .climb (by decide) (ihcondition c mid hc) ?_
    rcases hmid with ⟨s, more, t, s', mid', f, rfl, ht, hf, rfl⟩ | ⟨hend, rfl, rfl⟩
    · have htrue := ihtrue s more hc.shorter t _ ht
      have hfalse := ihfalse more s more hc.shorter _ ht.shorter mid' (Nat.lt_succ_self _) f rest hf
      exact .conditional _ htrue hfalse
    · refine .stop fun hcontinues ↦ ?_
      obtain ⟨w, hw⟩ := exists_question_of_continues hcontinues
      obtain ⟨s, more, rfl, _⟩ := exists_of_map_eq_cons hw
      exact hend s more rfl
  case chain =>
    intro level ts ihoperand ihtail e rest h
    obtain ⟨l, mid, hl, he⟩ := gives_chain_iff.1 h
    exact .climb (by cases level <;> decide) (ihoperand l mid hl) (ihtail l mid hl.shorter e rest he)
  case tailNil =>
    intro level left e rest h
    obtain ⟨rfl, rfl⟩ := gives_chainTail_nil_iff.1 h
    exact .stop nofun
  case tailStop =>
    intro level left t ts hop e rest h
    obtain ⟨rfl, rfl⟩ := (gives_chainTail_stop_iff hop).1 h
    exact .stop (op?_eq_none_iff.1 hop)
  case tailOp =>
    intro level left t ts op hop ihoperand ihtail e rest h
    obtain ⟨r, mid, hr, he⟩ := (gives_chainTail_op_iff hop).1 h
    obtain ⟨hlevel, htokens⟩ := op?_eq_some_iff.1 hop
    have hright := ihoperand r mid hr
    have htail := ihtail r mid hr.shorter e rest he
    rw [← hlevel] at hright htail ⊢
    rw [List.map_cons, ← List.singleton_append, ← htokens]
    exact .binary _ (by rw [hlevel]; cases level <;> decide) hright htail
  case disjunctive | conjunctive | additive | multiplicative =>
    intro ts ih e rest h
    rw [operand] at h
    exact ih e rest h
  case unaryNil =>
    intro ih e rest h
    rw [unary] at h
    exact .climb (by decide) (ih e rest h) (.stop continues_ne_unary)
  case unaryNone =>
    intro t ts hop ih e rest h
    rw [unary_eq_suffixed (by rintro _ _ ⟨⟩; exact hop)] at h
    exact .climb (by decide) (ih e rest h) (.stop continues_ne_unary)
  case unaryOp =>
    intro t ts op hop ih e rest h
    obtain ⟨inner, hinner, rfl⟩ := (gives_unary_op_iff hop).1 h
    rw [List.map_cons, unaryOp?_eq_some_iff.1 hop]
    exact .unary _ (ih inner rest hinner)
  case suffixed =>
    intro ts ihprimary ihsuffixes e rest h
    obtain ⟨l, mid, hl, he⟩ := gives_suffixed_iff.1 h
    exact .climb (by decide) (ihprimary l mid hl) (ihsuffixes l mid hl.shorter e rest he)
  case method =>
    intro e s₁ name s₂ s₃ ts ihargs ihtail whole rest h
    obtain ⟨args, stop, mid, hargs, htail⟩ := gives_method_iff.1 h
    exact .method _ (ihargs (by simp [Token.Closing]) (args, stop) mid hargs)
      (ihtail args stop mid hargs.shorter whole rest htail)
  case property =>
    intro e s₁ name s₂ ts hts ih whole rest h
    exact .property _ (head?_ne_iff.2 hts) (ih whole rest ((gives_property_iff hts).1 h))
  case member =>
    intro e s found ts hmethod hproperty whole rest h
    rw [suffixes] at h
    · exact absurd h not_gives_error
    all_goals assumption
  case memberNil =>
    intro e s whole rest h
    rw [suffixes] at h
    exact absurd h not_gives_error
  case call =>
    intro e s ts ihargs ihtail whole rest h
    obtain ⟨args, stop, mid, hargs, htail⟩ := gives_call_iff.1 h
    exact .call _ (ihargs (by simp [Token.Closing]) (args, stop) mid hargs)
      (ihtail args stop mid hargs.shorter whole rest htail)
  case index =>
    intro e s ts ihkey ihtail whole rest h
    obtain ⟨key, stop, mid, hkey, htail⟩ := gives_index_iff.1 h
    exact .index _ (ihkey key _ hkey)
      (ihtail key _ hkey.shorter stop mid (Nat.lt_succ_self _) whole rest htail)
  case suffixesStop =>
    intro e ts hmethod hproperty hmember hmemberNil hcall hindex whole rest h
    rw [suffixes] at h
    · obtain ⟨rfl, rfl⟩ := gives_ok_iff.1 h
      refine .stop fun hcontinues ↦ ?_
      obtain ⟨t, w, hts, ht⟩ := exists_suffix_of_continues hcontinues
      obtain ⟨s, more, rfl, _⟩ := exists_of_map_eq_cons hts
      simp only [List.mem_cons, List.not_mem_nil, or_false] at ht
      rcases ht with rfl | rfl | rfl
      · cases more with
        | nil => exact hmemberNil s rfl
        | cons found more => exact hmember s found more rfl
      · exact hcall s more rfl
      · exact hindex s more rfl
    all_goals assumption
  case itemsClose =>
    rintro close context ts hhead hclose ⟨es, stop⟩ rest h
    cases ts with
    | nil =>
      rw [items, if_pos hhead] at h
      obtain ⟨s, mid, hmid, hs, _⟩ := gives_bind_iff.1 h
      cases (gives_expect_iff hclose.inner).1 ⟨hmid, hs⟩
    | cons t ts =>
      obtain ⟨v, s⟩ := t
      obtain rfl := hclose.inner.beq_iff.1 hhead
      obtain ⟨rfl, rfl, rfl⟩ := (gives_items_close_iff hclose).1 h
      exact .noItem
  case items =>
    rintro close context ts hhead ihexpression ihmore hclose ⟨es, stop⟩ rest h
    have hts : ∃ t more, ts = t :: more ∧ t.value ≠ close := by
      cases ts with
      | nil => exact absurd rfl hhead
      | cons t more => exact ⟨t, more, rfl, fun heq ↦ hhead (hclose.inner.beq_iff.2 heq)⟩
    obtain ⟨e, mid, he, hmid⟩ := (gives_items_iff hclose hts).1 h
    have hfirst := ihexpression e mid he
    rcases hmid with ⟨s, more, es', rfl, hes, rfl⟩ | ⟨rfl, rfl⟩
    · exact .item hfirst (ihmore s more he.shorter hclose (es', stop) rest hes)
    · exact .lastItem hfirst
  case primaryNil =>
    intro e rest h
    rw [primary] at h
    exact absurd h not_gives_error
  case true | false | null =>
    intro s ts e rest h
    rw [primary] at h
    obtain ⟨rfl, rfl⟩ := gives_ok_iff.1 h
    exact .literal (by constructor)
  case number | string =>
    intro value s ts e rest h
    rw [primary] at h
    obtain ⟨rfl, rfl⟩ := gives_ok_iff.1 h
    exact .literal (by constructor)
  case closure =>
    intro name s s' ts ih e rest h
    obtain ⟨body, hbody, rfl⟩ := gives_closure_iff.1 h
    exact .closure _ (ih body rest hbody)
  case name =>
    intro name s ts hts e rest h
    obtain ⟨rfl, rfl⟩ := (gives_name_iff hts).1 h
    exact .name s (head?_ne_iff.2 hts)
  case list =>
    intro s ts ih e rest h
    obtain ⟨es, stop, hes, rfl⟩ := gives_list_iff.1 h
    exact .list _ (ih (by simp [Token.Closing]) (es, stop) rest hes)
  case map =>
    intro s ts ih e rest h
    obtain ⟨es, stop, hes, rfl⟩ := gives_map_iff.1 h
    exact .map _ (ih (es, stop) rest hes)
  case paren =>
    intro s ts ih e rest h
    obtain ⟨s', he⟩ := gives_paren_iff.1 h
    exact .paren (ih e _ he)
  case primaryOther =>
    intro found ts h₁ h₂ h₃ h₄ h₅ h₆ h₇ h₈ h₉ h₁₀ e rest h
    rw [primary.eq_12 _ _ h₁ h₂ h₃ h₄ h₅ h₆ h₇ h₈ h₉ h₁₀] at h
    exact absurd h not_gives_error
  case entriesNil =>
    intro es rest h
    rw [entries] at h
    exact absurd h not_gives_error
  case entriesClose =>
    rintro s ts ⟨es, stop⟩ rest h
    obtain ⟨rfl, rfl, rfl⟩ := gives_entries_close_iff.1 h
    exact .noEntry
  case entriesOther =>
    intro t ts hne hkey es rest h
    rw [entries.eq_3 _ _ hne] at h
    split at h
    · exact absurd h not_gives_error
    · simp_all
  case entries =>
    rintro t ts hne key hkey ihexpression ihmore ⟨es, stop⟩ rest h
    obtain ⟨s, more, rfl, e, mid, he, hmid⟩ := (gives_entries_iff hkey).1 h
    have hfirst := ihexpression more (Nat.lt_succ_self _) e mid he
    rcases hmid with ⟨s', more', es', rfl, hes, rfl⟩ | ⟨rfl, rfl⟩
    · exact .entry hkey hfirst
        (ihmore more (Nat.lt_succ_self _) more s' more' he.shorter (es', stop) rest hes)
    · exact .lastEntry hkey hfirst
  case comparison =>
    intro ts ihleft ihright e rest h
    obtain ⟨l, mid, hl, hmid⟩ := gives_comparison_iff.1 h
    refine .climb (by decide) (ihleft l mid hl) ?_
    rcases hmid with ⟨op, mid', r, hop, hr, rfl⟩ | ⟨hop, rfl, rfl⟩
    · obtain ⟨hprec, htokens⟩ := comparison?_eq_some hop
      rw [htokens]
      exact .comparison _ hprec (ihright mid hl.shorter op mid' hop r rest hr)
    · exact .stop (comparison?_eq_none_iff.1 hop)

end Parser

end ReleaseAudit
