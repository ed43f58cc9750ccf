import ReleaseAudit.Expr.Parse

/-!
# Where parsing fails

A parser leaves an end of its tokens, or it fails at one of them. So whatever is refused behind the
scanner has the place of a token.
-/

namespace ReleaseAudit

namespace Parser

variable {m n : Nat} {α β : Type} {ts start rest : Tokens}

/-- A parser that starts at `ts` leaves an end of `ts`, or fails at the place of one of the tokens. -/
def Keeps (ts : Tokens) : Outcome (Taken n α) → Prop
  | .ok taken => taken.rest <:+ ts
  | .error e => ∀ s, e.span? = some s → ∃ t ∈ ts, t.span = s

theorem Keeps.suffix {o : Outcome (Taken n α)} (h : Keeps start o) (hstart : start <:+ ts) :
    Keeps ts o := by
  cases o with
  | ok taken => exact List.IsSuffix.trans h hstart
  | error e =>
    intro s hs
    obtain ⟨t, ht, heq⟩ := h s hs
    exact ⟨t, hstart.subset ht, heq⟩

theorem Keeps.bind {o : Outcome (Taken m β)} {next : Taken m β → Outcome (Taken n α)}
    (ho : Keeps ts o) (hnext : ∀ b rest h, rest <:+ ts → Keeps rest (next ⟨b, rest, h⟩)) :
    Keeps ts (o >>= next) := by
  cases o with
  | error e => exact ho
  | ok taken =>
    obtain ⟨b, rest, h⟩ := taken
    exact (hnext b rest h ho).suffix ho

theorem keeps_ok {taken : Taken n α} (h : taken.rest <:+ ts) : Keeps ts (.ok taken) := h

theorem keeps_pure {a : α} {h : ts.length < n} : Keeps ts (pure ⟨a, ts, h⟩ : Outcome (Taken n α)) :=
  List.suffix_rfl

theorem keeps_unexpected {found : Located Token} (expected : String) (h : found ∈ ts) :
    Keeps ts (unexpected expected found : Outcome (Taken n α)) := by
  rintro s ⟨⟩
  exact ⟨found, h, rfl⟩

theorem keeps_unexpectedEnd (expected : String) (context : Option String) :
    Keeps ts (.error (.unexpectedEnd expected context) : Outcome (Taken n α)) := nofun

theorem keeps_expect (t : Token) (context : String) (ts : Tokens) :
    Keeps ts (expect t context ts) := by
  cases ts with
  | nil => exact keeps_unexpectedEnd _ _
  | cons found rest =>
    rw [expect]
    split
    · exact keeps_ok (List.suffix_cons found rest)
    · exact keeps_unexpected _ List.mem_cons_self

theorem comparison?_suffix {op : BinaryOp} (h : comparison? ts = some (op, rest)) :
    rest <:+ ts := by
  unfold comparison? at h
  split at h <;> cases h
  case h_8 => exact List.suffix_append [_, _] rest
  all_goals exact List.suffix_cons _ rest

theorem keeping : (∀ ts, Keeps ts (expression ts)) ∧ (∀ level ts, Keeps ts (chain level ts)) ∧
    (∀ level left ts, Keeps ts (chainTail level left ts)) ∧
    (∀ level ts, Keeps ts (operand level ts)) ∧ (∀ ts, Keeps ts (unary ts)) ∧
    (∀ ts, Keeps ts (suffixed ts)) ∧ (∀ left ts, Keeps ts (suffixes left ts)) ∧
    (∀ close context ts, Keeps ts (items close context ts)) ∧ (∀ ts, Keeps ts (primary ts)) ∧
    (∀ ts, Keeps ts (entries ts)) ∧ ∀ ts, Keeps ts (comparison ts) := by
  refine expression.mutual_induct _ _ _ _ _ _ _ _ _ _ _ ?expression ?chain ?tailNil ?tailStop
    ?tailOp ?disjunctive ?conjunctive ?additive ?multiplicative ?unaryNil ?unaryNone ?unaryOp
    ?suffixed ?method ?property ?member ?memberNil ?call ?index ?suffixesStop ?itemsClose ?items
    ?primaryNil ?true ?false ?null ?number ?string ?closure ?name ?list ?map ?paren ?primaryOther
    ?entriesNil ?entriesClose ?entriesOther ?entries ?comparison
  case expression =>
    intro ts ihcondition ihtrue ihfalse
    rw [expression]
    refine ihcondition.bind fun condition rest h hrest ↦ ?_
    dsimp only
    split
    · rename_i s more _
      refine Keeps.suffix ?_ (List.suffix_cons _ more)
      refine (ihtrue s more h).bind fun onTrue rest₁ h₁ _ ↦ ?_
      refine (keeps_expect .colon _ rest₁).bind fun _ rest₂ h₂ _ ↦ ?_
      exact (ihfalse [] s more h rest₁ h₁ rest₂ h₂).bind fun _ _ _ _ ↦ keeps_pure
    · exact keeps_pure
  case chain =>
    intro level ts ihoperand ihtail
    rw [chain]
    refine ihoperand.bind fun left rest h _ ↦ ?_
    exact (ihtail left rest h).bind fun _ _ _ _ ↦ keeps_pure
  case tailNil =>
    intro level left
    rw [chainTail]
    exact keeps_ok List.suffix_rfl
  case tailStop =>
    intro level left t ts hop
    rw [chainTail]
    simp only [hop]
    exact keeps_ok List.suffix_rfl
  case tailOp =>
    intro level left t ts op hop ihoperand ihtail
    rw [chainTail]
    simp only [hop]
    refine Keeps.suffix ?_ (List.suffix_cons t ts)
    refine ihoperand.bind fun right rest₁ h₁ _ ↦ ?_
    exact (ihtail right rest₁ h₁).bind fun _ _ _ _ ↦ keeps_pure
  case disjunctive | conjunctive | additive | multiplicative =>
    intro ts ih
    rw [operand]
    exact ih
  case unaryNil =>
    intro ih
    rw [unary]
    exact ih
  case unaryNone =>
    intro t ts hop ih
    rw [unary]
    simp only [hop]
    exact ih
  case unaryOp =>
    intro t ts op hop ih
    rw [unary]
    simp only [hop]
    refine Keeps.suffix ?_ (List.suffix_cons t ts)
    exact ih.bind fun _ _ _ _ ↦ keeps_pure
  case suffixed =>
    intro ts ihprimary ihsuffixes
    rw [suffixed]
    refine ihprimary.bind fun left rest h _ ↦ ?_
    exact (ihsuffixes left rest h).bind fun _ _ _ _ ↦ keeps_pure
  case method =>
    intro e s₁ name s₂ s₃ ts ihargs ihtail
    rw [suffixes]
    refine Keeps.suffix ?_ (List.suffix_append [_, _, _] ts)
    refine ihargs.bind fun args rest h _ ↦ ?_
    exact (ihtail args.1 args.2 rest h).bind fun _ _ _ _ ↦ keeps_pure
  case property =>
    intro e s₁ name s₂ ts hparen ih
    rw [suffixes]
    · refine Keeps.suffix ?_ (List.suffix_append [_, _] ts)
      exact ih.bind fun _ _ _ _ ↦ keeps_pure
    · exact hparen
  case member =>
    intro e s found ts hmethod hproperty
    rw [suffixes]
    · exact keeps_unexpected _ (List.mem_cons_of_mem _ List.mem_cons_self)
    all_goals assumption
  case memberNil =>
    intro e s
    rw [suffixes]
    exact keeps_unexpectedEnd _ _
  case call =>
    intro e s ts ihargs ihtail
    rw [suffixes]
    refine Keeps.suffix ?_ (List.suffix_cons _ ts)
    refine ihargs.bind fun args rest h _ ↦ ?_
    exact (ihtail args.1 args.2 rest h).bind fun _ _ _ _ ↦ keeps_pure
  case index =>
    intro e s ts ihkey ihtail
    rw [suffixes]
    refine Keeps.suffix ?_ (List.suffix_cons _ ts)
    refine ihkey.bind fun key rest₁ h₁ _ ↦ ?_
    refine (keeps_expect .rightBracket _ rest₁).bind fun stop rest₂ h₂ _ ↦ ?_
    exact (ihtail key rest₁ h₁ stop rest₂ h₂).bind fun _ _ _ _ ↦ keeps_pure
  case suffixesStop =>
    intro e ts hmethod hproperty hmember hmemberNil hcall hindex
    rw [suffixes]
    · exact keeps_ok List.suffix_rfl
    all_goals assumption
  case itemsClose =>
    intro close context ts hhead
    rw [items, if_pos hhead]
    exact (keeps_expect close context ts).bind fun _ _ _ _ ↦ keeps_pure
  case items =>
    intro close context ts hhead ihexpression ihmore
    rw [items, if_neg hhead]
    refine ihexpression.bind fun e rest h hrest ↦ ?_
    dsimp only
    split
    · rename_i s more _
      refine Keeps.suffix ?_ (List.suffix_cons _ more)
      exact (ihmore s more h).bind fun _ _ _ _ ↦ keeps_pure
    · exact (keeps_expect close context rest).bind fun _ _ _ _ ↦ keeps_pure
  case primaryNil =>
    rw [primary]
    exact keeps_unexpectedEnd _ _
  case true | false | null =>
    intro s ts
    rw [primary]
    exact keeps_ok (List.suffix_cons _ ts)
  case number | string =>
    intro value s ts
    rw [primary]
    exact keeps_ok (List.suffix_cons _ ts)
  case closure =>
    intro name s s' ts ih
    rw [primary]
    refine Keeps.suffix ?_ (List.suffix_append [_, _] ts)
    exact ih.bind fun _ _ _ _ ↦ keeps_pure
  case name =>
    intro name s ts harrow
    rw [primary]
    · exact keeps_ok (List.suffix_cons _ ts)
    · exact harrow
  case list | map =>
    intro s ts ih
    rw [primary]
    refine Keeps.suffix ?_ (List.suffix_cons _ ts)
    exact ih.bind fun _ _ _ _ ↦ keeps_pure
  case paren =>
    intro s ts ih
    rw [primary]
    refine Keeps.suffix ?_ (List.suffix_cons _ ts)
    refine ih.bind fun e rest₁ h₁ _ ↦ ?_
    exact (keeps_expect .rightParen _ rest₁).bind fun _ _ _ _ ↦ keeps_pure
  case primaryOther =>
    intro found ts h₁ h₂ h₃ h₄ h₅ h₆ h₇ h₈ h₉ h₁₀
    rw [primary.eq_12 _ _ h₁ h₂ h₃ h₄ h₅ h₆ h₇ h₈ h₉ h₁₀]
    exact keeps_unexpected _ List.mem_cons_self
  case entriesNil =>
    rw [entries]
    exact keeps_unexpectedEnd _ _
  case entriesClose =>
    intro s ts
    rw [entries]
    exact keeps_ok (List.suffix_cons _ ts)
  case entriesOther =>
    intro t ts hne hkey
    rw [entries.eq_3 _ _ hne]
    split
    · exact keeps_unexpected _ List.mem_cons_self
    · simp_all
  case entries =>
    intro t ts hne key hkey ihexpression ihmore
    rw [entries.eq_3 _ _ hne]
    split
    · exact keeps_unexpected _ List.mem_cons_self
    refine Keeps.suffix ?_ (List.suffix_cons t ts)
    refine (keeps_expect .colon _ ts).bind fun _ rest₁ h₁ _ ↦ ?_
    refine (ihexpression rest₁ h₁).bind fun e rest₂ h₂ hrest₂ ↦ ?_
    dsimp only
    split
    · rename_i s more _
      refine Keeps.suffix ?_ (List.suffix_cons _ more)
      exact (ihmore rest₁ h₁ [] s more h₂).bind fun _ _ _ _ ↦ keeps_pure
    · exact (keeps_expect .rightBrace _ rest₂).bind fun _ _ _ _ ↦ keeps_pure
  case comparison =>
    intro ts ihleft ihright
    rw [comparison]
    refine ihleft.bind fun left rest h _ ↦ ?_
    dsimp only
    split
    · exact keeps_pure
    · rename_i op mid hop
      refine Keeps.suffix ?_ (comparison?_suffix hop)
      exact (ihright rest h op mid hop).bind fun _ _ _ _ ↦ keeps_pure

end Parser

/-- What the parser refuses is one of the tokens. -/
theorem Expr.exists_token_of_ofTokens_error {ts : Tokens} {err : ParseError} {s : Span}
    (h : ofTokens ts = .error err) (hs : err.span? = some s) : ∃ t ∈ ts, t.span = s := by
  have hkeeps := Parser.keeping.1 ts
  unfold ofTokens at h
  rcases hrun : Parser.expression ts with err' | ⟨e, rest, hrest⟩ <;> rw [hrun] at h hkeeps
  · cases h
    exact hkeeps s hs
  · cases rest with
    | nil => cases h
    | cons found more =>
      cases h
      cases hs
      exact ⟨found, hkeeps.subset List.mem_cons_self, rfl⟩

end ReleaseAudit
