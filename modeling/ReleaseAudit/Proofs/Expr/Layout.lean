import ReleaseAudit.Proofs.Expr.Occurrence
import ReleaseAudit.Proofs.Expr.Outcome
import ReleaseAudit.Proofs.Expr.Placing
import ReleaseAudit.Proofs.Token.Place

/-!
# The layout of parsed expressions

Every node of a parsed expression begins where a token does and ends where one does, also when there
are parentheses around it. Its span holds those of its parts, which stand one behind the other.
-/

namespace ReleaseAudit

variable {ts us before used after rest : Tokens} {spans : List Span} {a b s u v : Span}

/-! ## Spans over tokens -/

namespace Span

/-- The span `u` lies within `s`. -/
structure Holds (s u : Span) : Prop where
  start : s.start ≤ u.start
  stop : u.stop ≤ s.stop

theorem Holds.refl (s : Span) : s.Holds s := ⟨Nat.le_refl _, Nat.le_refl _⟩

theorem Holds.trans (h : s.Holds u) (h' : u.Holds v) : s.Holds v :=
  ⟨Nat.le_trans h.start h'.start, Nat.le_trans h'.stop h.stop⟩

/-- The span begins where one of the tokens does and ends where one of them does. -/
structure StandsOver (ts : Tokens) (s : Span) : Prop where
  first : ∃ t ∈ ts, s.first = t.span.first
  stop : ∃ t ∈ ts, s.stop = t.span.stop
  nonempty : s.start < s.stop

theorem StandsOver.mono (h : s.StandsOver ts) (hsub : ts ⊆ us) : s.StandsOver us := by
  obtain ⟨t, ht, hfirst⟩ := h.first
  obtain ⟨t', ht', hstop⟩ := h.stop
  exact ⟨⟨t, hsub ht, hfirst⟩, ⟨t', hsub ht', hstop⟩, h.nonempty⟩

theorem stop_merge (h : a.Precedes b) (hb : b.start < b.stop) : (a.merge b).stop = b.stop :=
  Nat.max_eq_right (Nat.le_trans h.apart (Nat.le_of_lt hb))

end Span

/-- The tokens are not empty and stand one behind the other. -/
structure Spaced (ts : Tokens) : Prop where
  nonempty : ∀ t ∈ ts, t.span.start < t.span.stop
  ordered : ts.Pairwise fun t u ↦ t.span.Precedes u.span

namespace Spaced

theorem sublist (h : Spaced ts) (hsub : us.Sublist ts) : Spaced us :=
  ⟨fun t ht ↦ h.nonempty t (hsub.subset ht), h.ordered.sublist hsub⟩

theorem left (h : Spaced (ts ++ us)) : Spaced ts := h.sublist (List.sublist_append_left ts us)

theorem right (h : Spaced (ts ++ us)) : Spaced us := h.sublist (List.sublist_append_right ts us)

theorem tail {t : Located Token} (h : Spaced (t :: ts)) : Spaced ts :=
  h.sublist (List.sublist_cons_self t ts)

theorem standsOver (h : Spaced ts) {t : Located Token} (ht : t ∈ ts) : t.span.StandsOver ts :=
  ⟨⟨t, ht, rfl⟩, ⟨t, ht, rfl⟩, h.nonempty t ht⟩

theorem precedes (h : Spaced (ts ++ us)) (hs : s.StandsOver ts) (hu : u.StandsOver us) : s.Precedes u := by
  have hordered := (List.pairwise_append.1 h.ordered).2.2
  obtain ⟨t, ht, hfirst⟩ := hs.first
  obtain ⟨t', ht', hstop⟩ := hs.stop
  obtain ⟨v, hv, hfirst'⟩ := hu.first
  constructor
  · rw [hfirst, hfirst']
    exact (hordered t ht v hv).first
  · have hstart : u.start = v.span.start := congrArg Position.offset hfirst'
    rw [hstop, hstart]
    exact (hordered t' ht' v hv).apart

end Spaced

/-- The spans stand over the tokens, one behind the other. -/
structure Row (ts : Tokens) (spans : List Span) : Prop where
  standsOver : ∀ s ∈ spans, s.StandsOver ts
  ordered : spans.Pairwise Span.Precedes

namespace Row

theorem nil (ts : Tokens) : Row ts [] := ⟨nofun, .nil⟩

theorem singleton (h : s.StandsOver ts) : Row ts [s] :=
  ⟨List.forall_mem_singleton.2 h, List.pairwise_singleton _ _⟩

theorem mono (h : Row ts spans) (hsub : ts ⊆ us) : Row us spans :=
  ⟨fun s hs ↦ (h.standsOver s hs).mono hsub, h.ordered⟩

theorem append {spans' : List Span} (hts : Spaced (ts ++ us)) (h : Row ts spans)
    (h' : Row us spans') : Row (ts ++ us) (spans ++ spans') where
  standsOver s hs := by
    rcases List.mem_append.1 hs with hs | hs
    · exact (h.standsOver s hs).mono (List.subset_append_left ts us)
    · exact (h'.standsOver s hs).mono (List.subset_append_right ts us)
  ordered := List.pairwise_append.2
    ⟨h.ordered, h'.ordered, fun s hs u hu ↦ hts.precedes (h.standsOver s hs) (h'.standsOver u hu)⟩

variable (h : Row ts (a :: (spans ++ [b])))
include h

theorem first_precedes_last : a.Precedes b :=
  (List.pairwise_cons.1 h.ordered).1 b (List.mem_append_right _ (List.mem_singleton_self b))

theorem start_le (hs : s ∈ a :: (spans ++ [b])) : a.start ≤ s.start := by
  rcases List.mem_cons.1 hs with rfl | hs
  · exact Nat.le_refl _
  · exact ((List.pairwise_cons.1 h.ordered).1 s hs).first.offset

theorem le_stop (hs : s ∈ a :: (spans ++ [b])) : s.stop ≤ b.stop := by
  have hb : b.start < b.stop := (h.standsOver b (by simp)).nonempty
  have hordered : (a :: spans ++ [b]).Pairwise Span.Precedes := h.ordered
  rcases List.mem_append.1 (show s ∈ a :: spans ++ [b] from hs) with hs | hs
  · have hlast := (List.pairwise_append.1 hordered).2.2 s hs b (List.mem_singleton_self b)
    exact Nat.le_trans hlast.apart (Nat.le_of_lt hb)
  · rw [List.mem_singleton.1 hs]

/-- The first and the last one of a row merge to a span that holds all of it. -/
theorem holds (hs : s ∈ a :: (spans ++ [b])) : (a.merge b).Holds s := by
  have hb : b.start < b.stop := (h.standsOver b (by simp)).nonempty
  refine ⟨Nat.le_trans (Nat.min_le_left _ _) (h.start_le hs), ?_⟩
  rw [Span.stop_merge h.first_precedes_last hb]
  exact h.le_stop hs

theorem merge_standsOver : (a.merge b).StandsOver ts := by
  have ha := h.standsOver a List.mem_cons_self
  have hb := h.standsOver b (by simp)
  have hfirst : (a.merge b).first = a.first := Span.first_merge h.first_precedes_last.first
  have hstop := Span.stop_merge h.first_precedes_last hb.nonempty
  refine ⟨?_, ?_, ?_⟩
  · rw [hfirst]
    exact ha.first
  · rw [hstop]
    exact hb.stop
  · have hstart : (a.merge b).start = a.start := congrArg Position.offset hfirst
    rw [hstart, hstop]
    exact Nat.lt_of_lt_of_le ha.nonempty (h.le_stop List.mem_cons_self)

end Row

/-- What stands over the tokens in front, a row over tokens behind them and what stands over the
tokens behind these are a row. -/
theorem row_between (hts : Spaced (before ++ (used ++ after))) (ha : a.StandsOver before)
    (hrow : Row used spans) (hb : b.StandsOver after) :
    Row (before ++ (used ++ after)) (a :: (spans ++ [b])) :=
  .append hts (.singleton ha) (.append hts.right hrow (.singleton hb))

/-! ## Nodes -/

namespace Expr

variable {e : Expr} {es : List Expr}

/-- Where a node stands over the tokens, and its parts within it. -/
structure Laid (ts : Tokens) (e : Expr) : Prop where
  standsOver : e.span.StandsOver ts
  holds : ∀ p ∈ e.parts, e.span.Holds p.2.span
  ordered : e.parts.Pairwise fun p q ↦ p.2.span.Precedes q.2.span

def LaidOut (ts : Tokens) (e : Expr) : Prop := Everywhere (Laid ts) e

theorem LaidOut.standsOver (h : LaidOut ts e) : e.span.StandsOver ts := (Everywhere.here h).standsOver

theorem LaidOut.mono (h : LaidOut ts e) (hsub : ts ⊆ us) : LaidOut us e :=
  Everywhere.imp h fun _ hlaid ↦ ⟨hlaid.standsOver.mono hsub, hlaid.holds, hlaid.ordered⟩

/-- A literal or a name is a token. -/
theorem laidOut_token {t : Located Token} (hts : Spaced [t]) (hspan : e.span = t.span)
    (hparts : e.parts = []) : LaidOut [t] e := by
  refine everywhere_of_parts ⟨?_, ?_, ?_⟩ ?_
  · rw [hspan]
    exact hts.standsOver (List.mem_singleton_self t)
  all_goals
    rw [hparts]
    simp

/-- The span of any other node is merged from the first and the last one of a row, and its parts are
in this row. -/
theorem laidOut_between (hts : Spaced (before ++ (used ++ after))) (ha : a.StandsOver before)
    (hrow : Row used spans) (hb : b.StandsOver after) (hspan : e.span = a.merge b)
    (hsub : (e.parts.map fun p ↦ p.2.span).Sublist (a :: (spans ++ [b])))
    (hparts : ∀ p ∈ e.parts, LaidOut (before ++ (used ++ after)) p.2) :
    LaidOut (before ++ (used ++ after)) e := by
  have hwhole := row_between hts ha hrow hb
  refine everywhere_of_parts ⟨?_, ?_, ?_⟩ hparts
  · rw [hspan]
    exact hwhole.merge_standsOver
  · intro p hp
    rw [hspan]
    exact hwhole.holds (hsub.subset (List.mem_map_of_mem hp))
  · exact List.pairwise_map.1 (hwhole.ordered.sublist hsub)

theorem laidOut_pair (hts : Spaced (before ++ after)) (ha : a.StandsOver before) (hb : b.StandsOver after)
    (hspan : e.span = a.merge b) (hsub : (e.parts.map fun p ↦ p.2.span).Sublist [a, b])
    (hparts : ∀ p ∈ e.parts, LaidOut (before ++ after) p.2) : LaidOut (before ++ after) e := by
  have hts' : Spaced (before ++ ([] ++ after)) := hts
  have hnode : LaidOut (before ++ ([] ++ after)) e :=
    laidOut_between hts' ha (.nil []) hb hspan hsub hparts
  exact hnode

/-- Expressions that stand one behind the other. -/
structure AllLaidOut (ts : Tokens) (es : List Expr) : Prop where
  laidOut : ∀ e ∈ es, LaidOut ts e
  row : Row ts (es.map span)

theorem AllLaidOut.nil (ts : Tokens) : AllLaidOut ts [] := ⟨nofun, .nil ts⟩

theorem AllLaidOut.singleton (h : LaidOut ts e) : AllLaidOut ts [e] :=
  ⟨List.forall_mem_singleton.2 h, .singleton h.standsOver⟩

theorem AllLaidOut.cons (hts : Spaced (ts ++ us)) (h : LaidOut ts e) (h' : AllLaidOut us es) :
    AllLaidOut (ts ++ us) (e :: es) where
  laidOut := List.forall_mem_cons.2 ⟨h.mono (List.subset_append_left ts us), fun e he ↦
    (h'.laidOut e he).mono (List.subset_append_right ts us)⟩
  row := .append hts (.singleton h.standsOver) h'.row

theorem AllLaidOut.mono (h : AllLaidOut ts es) (hsub : ts ⊆ us) : AllLaidOut us es :=
  ⟨fun e he ↦ (h.laidOut e he).mono hsub, h.row.mono hsub⟩

/-- What follows an expression as its suffix: a property, an index or arguments. -/
theorem laidOut_suffixed {left : Expr} {openers : Tokens} {t : Located Token}
    (hts : Spaced (before ++ (openers ++ used ++ [t]))) (hleft : LaidOut before left)
    (hes : AllLaidOut used es) (hspan : e.span = left.span.merge t.span)
    (hparts : e.parts = ([], left) :: es.map fun e ↦ ([], e)) :
    LaidOut (before ++ (openers ++ used ++ [t])) e := by
  have hlast : t.span.StandsOver [t] := hts.right.right.standsOver (List.mem_singleton_self t)
  have hused : used ⊆ before ++ (openers ++ used ++ [t]) := fun u hu ↦ by simp [hu]
  have hinner := hes.mono (List.subset_append_right openers used)
  refine laidOut_between hts hleft.standsOver hinner.row hlast hspan ?_ ?_
  · rw [hparts]
    simp [Function.comp_def]
  · rw [hparts]
    refine List.forall_mem_cons.2 ⟨hleft.mono (List.subset_append_left _ _), ?_⟩
    exact List.forall_mem_map.2 fun e he ↦ (hes.laidOut e he).mono hused

/-- The elements of a list or a map between the brackets. -/
theorem laidOut_bracketed {t t' : Located Token} (hts : Spaced ([t] ++ (used ++ [t'])))
    (hes : AllLaidOut used es) (hspan : e.span = t.span.merge t'.span)
    (hparts : e.parts = es.map fun e ↦ ([], e)) : LaidOut ([t] ++ (used ++ [t'])) e := by
  have hfirst : t.span.StandsOver [t] := hts.left.standsOver (List.mem_singleton_self t)
  have hlast : t'.span.StandsOver [t'] := hts.right.right.standsOver (List.mem_singleton_self t')
  have hused : used ⊆ [t] ++ (used ++ [t']) := fun u hu ↦ by simp [hu]
  refine laidOut_between hts hfirst hes.row hlast hspan ?_ ?_
  · rw [hparts]
    simp [Function.comp_def]
  · rw [hparts]
    exact List.forall_mem_map.2 fun e he ↦ (hes.laidOut e he).mono hused

/-- A token with an expression behind it: an operator and its operand, a parameter and the body. -/
theorem laidOut_headed {t : Located Token} {params : List String} {part : Expr}
    (hts : Spaced ([t] ++ after)) (hpart : LaidOut after part)
    (hspan : e.span = t.span.merge part.span) (hparts : e.parts = [(params, part)]) :
    LaidOut ([t] ++ after) e := by
  have hfirst : t.span.StandsOver [t] := hts.left.standsOver (List.mem_singleton_self t)
  refine laidOut_pair hts hfirst hpart.standsOver hspan ?_ ?_
  · rw [hparts]
    exact .cons _ (.refl _)
  · rw [hparts]
    exact List.forall_mem_singleton.2 (hpart.mono (List.subset_append_right _ _))

theorem laidOut_joined {left right : Expr} {op : BinaryOp} (hts : Spaced (before ++ after))
    (hleft : LaidOut before left) (hright : LaidOut after right) :
    LaidOut (before ++ after) (Parser.joined op left right) := by
  refine laidOut_pair hts hleft.standsOver hright.standsOver rfl (.refl _) ?_
  refine List.forall_mem_cons.2 ⟨hleft.mono (List.subset_append_left _ _), ?_⟩
  exact List.forall_mem_singleton.2 (hright.mono (List.subset_append_right _ _))

theorem laidOut_conditional {condition onTrue onFalse : Expr}
    (hts : Spaced (before ++ (used ++ after))) (hcondition : LaidOut before condition)
    (htrue : LaidOut used onTrue) (hfalse : LaidOut after onFalse) :
    LaidOut (before ++ (used ++ after))
      (conditional (condition.span.merge onFalse.span) condition onTrue onFalse) := by
  have hused : used ⊆ before ++ (used ++ after) := fun u hu ↦ by simp [hu]
  have hafter : after ⊆ before ++ (used ++ after) := fun u hu ↦ by simp [hu]
  have hmid : Row used [onTrue.span] := .singleton htrue.standsOver
  refine laidOut_between hts hcondition.standsOver hmid hfalse.standsOver rfl (.refl _) ?_
  refine List.forall_mem_cons.2 ⟨hcondition.mono (List.subset_append_left _ _), ?_⟩
  exact List.forall_mem_cons.2 ⟨htrue.mono hused, List.forall_mem_singleton.2 (hfalse.mono hafter)⟩

end Expr

/-! ## The parser -/

namespace Parser

open ReleaseAudit.Expr (LaidOut AllLaidOut)

variable {n : Nat} {α : Type} {e left : Expr} {t : Located Token}

/-- What the parser takes from `ts` is what the expression is laid out over. -/
def Lays (ts : Tokens) (o : Outcome (Taken n Expr)) : Prop :=
  Spaced ts → ∀ e rest, Gives o e rest → ∃ used, ts = used ++ rest ∧ LaidOut used e

/-- The expression goes on with what has been parsed from `before`. -/
def LaysBehind (before ts : Tokens) (o : Outcome (Taken n Expr)) : Prop :=
  Spaced (before ++ ts) → ∀ e rest, Gives o e rest →
    ∃ used, ts = used ++ rest ∧ LaidOut (before ++ used) e

/-- The parser takes expressions, which `f` has from its result, and the token behind them. -/
def LaysAll (f : α → List Expr) (ts : Tokens) (o : Outcome (Taken n (α × Span))) : Prop :=
  Spaced ts → ∀ a stop rest, Gives o (a, stop) rest →
    ∃ used t, ts = used ++ t :: rest ∧ t.span = stop ∧ AllLaidOut used (f a)

/-- A literal or a name is one token. -/
theorem exists_laidOut_token (hts : Spaced (t :: ts)) (hspan : e.span = t.span)
    (hparts : e.parts = []) : ∃ used, t :: ts = used ++ ts ∧ LaidOut used e :=
  ⟨[t], rfl, Expr.laidOut_token (hts.sublist (by simp)) hspan hparts⟩

theorem laidOut_before_nil (h : LaidOut before e) :
    ∃ used, ts = used ++ ts ∧ LaidOut (before ++ used) e :=
  ⟨[], rfl, by rwa [List.append_nil]⟩

/-- What goes on behind a node goes on behind what the node is laid out over. -/
theorem LaysBehind.exists_laidOut {mid : Tokens} {o : Outcome (Taken n Expr)}
    (h : LaysBehind (before ++ used) mid o) (hused : ts = used ++ mid) (hts : Spaced (before ++ ts))
    (he : Gives o e rest) : ∃ used', ts = used' ++ rest ∧ LaidOut (before ++ used') e := by
  rw [hused, ← List.append_assoc] at hts
  obtain ⟨used', rfl, hwhole⟩ := h hts e rest he
  exact ⟨used ++ used', by rw [hused, List.append_assoc], by rwa [← List.append_assoc]⟩

/-- By the induction of the parser: every branch takes tokens in front of what its calls take, and
puts their expressions into one row. -/
theorem laying : (∀ ts, Lays ts (expression ts)) ∧ (∀ level ts, Lays ts (chain level ts)) ∧
    (∀ level left ts before, LaidOut before left →
      LaysBehind before ts (chainTail level left ts)) ∧
    (∀ level ts, Lays ts (operand level ts)) ∧ (∀ ts, Lays ts (unary ts)) ∧
    (∀ ts, Lays ts (suffixed ts)) ∧
    (∀ left ts before, LaidOut before left → LaysBehind before ts (suffixes left ts)) ∧
    (∀ close context ts, close.Closing → LaysAll id ts (items close context ts)) ∧
    (∀ ts, Lays ts (primary ts)) ∧ (∀ ts, LaysAll (List.map Prod.snd) ts (entries ts)) ∧
    ∀ ts, Lays ts (comparison ts) := by
  refine expression.mutual_induct _ _ _ _ _ _ _ _ _ _ _ ?expression ?chain ?tailNil ?tailStop ?tailOp
    ?disjunctive ?conjunctive ?additive ?multiplicative ?unaryNil ?unaryNone ?unaryOp ?suffixed
    ?method ?property ?member ?memberNil ?call ?index ?suffixesStop ?itemsClose ?items ?primaryNil
    ?true ?false ?null ?number ?string ?closure ?name ?list ?map ?paren ?primaryOther ?entriesNil
    ?entriesClose ?entriesOther ?entries ?comparison
  case expression =>
    intro ts ihcondition ihtrue ihfalse hts e rest h
    obtain ⟨c, mid, hc, hmid⟩ := gives_expression_iff.1 h
    obtain ⟨used, rfl, hcondition⟩ := ihcondition hts c mid hc
    rcases hmid with ⟨s, more, t, s', mid', f, rfl, ht, hf, rfl⟩ | ⟨-, rfl, rfl⟩
    · have hmore : Spaced more := hts.right.tail
      obtain ⟨used₁, rfl, htrue⟩ := ihtrue s more hc.shorter hmore t _ ht
      have hmid' : Spaced mid' := hmore.right.tail
      obtain ⟨used₂, rfl, hfalse⟩ :=
        ihfalse [] s _ hc.shorter _ ht.shorter mid' (Nat.lt_succ_self _) hmid' f rest hf
      have htrue' : LaidOut (⟨.question, s⟩ :: used₁ ++ [⟨.colon, s'⟩]) t := htrue.mono (by simp)
      have hnode := Expr.laidOut_conditional (hts.sublist (by simp)) hcondition htrue' hfalse
      exact ⟨_, by simp, hnode⟩
    · exact ⟨used, rfl, hcondition⟩
  case chain =>
    intro level ts ihoperand ihtail hts e rest h
    obtain ⟨l, mid, hl, he⟩ := gives_chain_iff.1 h
    obtain ⟨used, rfl, hleft⟩ := ihoperand hts l mid hl
    obtain ⟨used', rfl, hwhole⟩ := ihtail l mid hl.shorter used hleft hts e rest he
    exact ⟨used ++ used', by simp, hwhole⟩
  case tailNil =>
    intro level left before hleft _ e rest h
    obtain ⟨rfl, rfl⟩ := gives_chainTail_nil_iff.1 h
    exact laidOut_before_nil hleft
  case tailStop =>
    intro level left t ts hop before hleft _ e rest h
    obtain ⟨rfl, rfl⟩ := (gives_chainTail_stop_iff hop).1 h
    exact laidOut_before_nil hleft
  case tailOp =>
    intro level left t ts op hop ihoperand ihtail before hleft hts e rest h
    obtain ⟨r, mid, hr, he⟩ := (gives_chainTail_op_iff hop).1 h
    obtain ⟨used, rfl, hright⟩ := ihoperand hts.right.tail r mid hr
    have hright' : LaidOut (t :: used) r := hright.mono (by simp)
    have hjoined : LaidOut (before ++ t :: used) (joined op left r) :=
      Expr.laidOut_joined (hts.sublist (by simp)) hleft hright'
    exact (ihtail r mid hr.shorter _ hjoined).exists_laidOut rfl hts he
  case disjunctive | conjunctive | additive | multiplicative =>
    intro ts ih hts e rest h
    rw [operand] at h
    exact ih hts e rest h
  case unaryNil =>
    intro ih hts e rest h
    rw [unary] at h
    exact ih hts e rest h
  case unaryNone =>
    intro t ts hop ih hts e rest h
    rw [unary_eq_suffixed (by rintro _ _ ⟨⟩; exact hop)] at h
    exact ih hts e rest h
  case unaryOp =>
    intro t ts op hop ih hts e rest h
    obtain ⟨inner, hinner, rfl⟩ := (gives_unary_op_iff hop).1 h
    obtain ⟨used, rfl, hoperand⟩ := ih hts.tail inner rest hinner
    have hnode : LaidOut ([t] ++ used) (.unary (t.span.merge inner.span) op inner) :=
      Expr.laidOut_headed (hts.sublist (by simp)) hoperand rfl rfl
    exact ⟨t :: used, rfl, hnode⟩
  case suffixed =>
    intro ts ihprimary ihsuffixes hts e rest h
    obtain ⟨l, mid, hl, he⟩ := gives_suffixed_iff.1 h
    obtain ⟨used, rfl, hleft⟩ := ihprimary hts l mid hl
    obtain ⟨used', rfl, hwhole⟩ := ihsuffixes l mid hl.shorter used hleft hts e rest he
    exact ⟨used ++ used', by simp, hwhole⟩
  case method =>
    intro e s₁ name s₂ s₃ ts ihargs ihtail before hleft hts whole rest h
    obtain ⟨args, stop, mid, hargs, htail⟩ := gives_method_iff.1 h
    obtain ⟨used, t, rfl, rfl, hall⟩ :=
      ihargs (by simp [Token.Closing]) hts.right.tail.tail.tail args stop mid hargs
    have hnode : LaidOut
        (before ++ ([⟨.dot, s₁⟩, ⟨.name name, s₂⟩, ⟨.leftParen, s₃⟩] ++ used ++ [t]))
        (.method (e.span.merge t.span) e name args) :=
      Expr.laidOut_suffixed (hts.sublist (by simp)) hleft hall rfl rfl
    exact (ihtail args t.span mid hargs.shorter _ hnode).exists_laidOut (by simp) hts htail
  case property =>
    intro e s₁ name s₂ ts hparen ih before hleft hts whole rest h
    have htail := (gives_property_iff hparen).1 h
    have hnode : LaidOut (before ++ ([⟨.dot, s₁⟩] ++ [] ++ [⟨.name name, s₂⟩]))
        (.property (e.span.merge s₂) e name) :=
      Expr.laidOut_suffixed (hts.sublist (by simp)) hleft (.nil []) rfl rfl
    exact (ih _ hnode).exists_laidOut rfl hts htail
  case member =>
    intro e s found ts hmethod hproperty before _ _ whole rest h
    rw [suffixes] at h
    · exact absurd h not_gives_error
    all_goals assumption
  case memberNil =>
    intro e s before _ _ whole rest h
    rw [suffixes] at h
    exact absurd h not_gives_error
  case call =>
    intro e s ts ihargs ihtail before hleft hts whole rest h
    obtain ⟨args, stop, mid, hargs, htail⟩ := gives_call_iff.1 h
    obtain ⟨used, t, rfl, rfl, hall⟩ :=
      ihargs (by simp [Token.Closing]) hts.right.tail args stop mid hargs
    have hnode : LaidOut (before ++ ([⟨.leftParen, s⟩] ++ used ++ [t]))
        (.call (e.span.merge t.span) e args) :=
      Expr.laidOut_suffixed (hts.sublist (by simp)) hleft hall rfl rfl
    exact (ihtail args t.span mid hargs.shorter _ hnode).exists_laidOut (by simp) hts htail
  case index =>
    intro e s ts ihkey ihtail before hleft hts whole rest h
    obtain ⟨key, stop, mid, hkey, htail⟩ := gives_index_iff.1 h
    obtain ⟨used, rfl, hlaid⟩ := ihkey hts.right.tail key _ hkey
    have hnode : LaidOut (before ++ ([⟨.leftBracket, s⟩] ++ used ++ [⟨.rightBracket, stop⟩]))
        (.index (e.span.merge stop) e key) :=
      Expr.laidOut_suffixed (hts.sublist (by simp)) hleft (.singleton hlaid) rfl rfl
    have hbehind := ihtail key _ hkey.shorter stop mid (Nat.lt_succ_self _) _ hnode
    exact hbehind.exists_laidOut (by simp) hts htail
  case suffixesStop =>
    intro e ts hmethod hproperty hmember hmemberNil hcall hindex before hleft _ whole rest h
    rw [suffixes] at h
    · obtain ⟨rfl, rfl⟩ := gives_ok_iff.1 h
      exact laidOut_before_nil hleft
    all_goals assumption
  case itemsClose =>
    intro close context ts hhead hclose hts es stop rest h
    cases ts with
    | nil =>
      rw [items, if_pos hhead] at h
      obtain ⟨s, mid, hmid, hs, _⟩ := gives_bind_iff.1 h
      cases (gives_expect_iff hclose.inner).1 ⟨hmid, hs⟩
    | cons t ts =>
      obtain ⟨v, s⟩ := t
      obtain rfl := hclose.inner.beq_iff.1 hhead
      obtain ⟨rfl, rfl, rfl⟩ := (gives_items_close_iff hclose).1 h
      exact ⟨[], _, rfl, rfl, .nil []⟩
  case items =>
    intro close context ts hhead ihexpression ihmore hclose hts es stop rest h
    have hfirst : ∃ t more, ts = t :: more ∧ t.value ≠ close := by
      cases ts with
      | nil => exact absurd rfl hhead
      | cons t more => exact ⟨t, more, rfl, fun heq ↦ hhead (hclose.inner.beq_iff.2 heq)⟩
    obtain ⟨e, mid, he, hmid⟩ := (gives_items_iff hclose hfirst).1 h
    obtain ⟨used, rfl, hlaid⟩ := ihexpression hts e mid he
    rcases hmid with ⟨s, more, es', rfl, hes, rfl⟩ | ⟨rfl, rfl⟩
    · obtain ⟨used', t, rfl, hstop, hall⟩ :=
        ihmore s more he.shorter hclose hts.right.tail es' stop rest hes
      have hall' : AllLaidOut (⟨.comma, s⟩ :: used') es' := hall.mono (by simp)
      exact ⟨_, t, by simp, hstop, .cons (hts.sublist (by simp)) hlaid hall'⟩
    · exact ⟨used, _, rfl, rfl, .singleton hlaid⟩
  case primaryNil =>
    intro _ e rest h
    rw [primary] at h
    exact absurd h not_gives_error
  case true | false | null =>
    intro s ts hts e rest h
    rw [primary] at h
    obtain ⟨rfl, rfl⟩ := gives_ok_iff.1 h
    exact exists_laidOut_token hts rfl rfl
  case number | string =>
    intro value s ts hts e rest h
    rw [primary] at h
    obtain ⟨rfl, rfl⟩ := gives_ok_iff.1 h
    exact exists_laidOut_token hts rfl rfl
  case closure =>
    intro name s s' ts ih hts e rest h
    obtain ⟨body, hbody, rfl⟩ := gives_closure_iff.1 h
    obtain ⟨used, rfl, hlaid⟩ := ih hts.tail.tail body rest hbody
    have hlaid' : LaidOut (⟨.arrow, s'⟩ :: used) body := hlaid.mono (by simp)
    have hnode : LaidOut ([⟨.name name, s⟩] ++ ⟨.arrow, s'⟩ :: used)
        (.closure (s.merge body.span) name body) :=
      Expr.laidOut_headed (hts.sublist (by simp)) hlaid' rfl rfl
    exact ⟨_, rfl, hnode⟩
  case name =>
    intro name s ts harrow hts e rest h
    obtain ⟨rfl, rfl⟩ := (gives_name_iff harrow).1 h
    exact exists_laidOut_token hts rfl rfl
  case list =>
    intro s ts ih hts e rest h
    obtain ⟨es, stop, hes, rfl⟩ := gives_list_iff.1 h
    obtain ⟨used, t, rfl, rfl, hall⟩ := ih (by simp [Token.Closing]) hts.tail es stop rest hes
    have hnode : LaidOut ([⟨.leftBracket, s⟩] ++ (used ++ [t])) (.list (s.merge t.span) es) :=
      Expr.laidOut_bracketed (hts.sublist (by simp)) hall rfl rfl
    exact ⟨_, by simp, hnode⟩
  case map =>
    intro s ts ih hts e rest h
    obtain ⟨es, stop, hes, rfl⟩ := gives_map_iff.1 h
    obtain ⟨used, t, rfl, rfl, hall⟩ := ih hts.tail es stop rest hes
    have hnode : LaidOut ([⟨.leftBrace, s⟩] ++ (used ++ [t])) (.map (s.merge t.span) es) :=
      Expr.laidOut_bracketed (hts.sublist (by simp)) hall rfl (by simp [Expr.parts])
    exact ⟨_, by simp, hnode⟩
  case paren =>
    intro s ts ih hts e rest h
    obtain ⟨s', he⟩ := gives_paren_iff.1 h
    obtain ⟨used, rfl, hlaid⟩ := ih hts.tail e _ he
    have hlaid' : LaidOut (⟨.leftParen, s⟩ :: (used ++ [⟨.rightParen, s'⟩])) e :=
      hlaid.mono fun t ht ↦ by simp [ht]
    exact ⟨_, by simp, hlaid'⟩
  case primaryOther =>
    intro found ts h₁ h₂ h₃ h₄ h₅ h₆ h₇ h₈ h₉ h₁₀ _ e rest h
    rw [primary.eq_12 _ _ h₁ h₂ h₃ h₄ h₅ h₆ h₇ h₈ h₉ h₁₀] at h
    exact absurd h not_gives_error
  case entriesNil =>
    intro _ es stop rest h
    rw [entries] at h
    exact absurd h not_gives_error
  case entriesClose =>
    intro s ts _ es stop rest h
    obtain ⟨rfl, rfl, rfl⟩ := gives_entries_close_iff.1 h
    exact ⟨[], _, rfl, rfl, .nil []⟩
  case entriesOther =>
    intro t ts hne hkey _ es stop rest h
    rw [entries.eq_3 _ _ hne] at h
    split at h
    · exact absurd h not_gives_error
    · simp_all
  case entries =>
    intro t ts hne key hkey ihexpression ihmore hts es stop rest h
    obtain ⟨s, more, rfl, e, mid, he, hmid⟩ := (gives_entries_iff hkey).1 h
    obtain ⟨used, rfl, hlaid⟩ := ihexpression more (Nat.lt_succ_self _) hts.tail.tail e mid he
    have hlaid' : LaidOut (t :: ⟨.colon, s⟩ :: used) e := hlaid.mono (by simp)
    rcases hmid with ⟨s', more', es', rfl, hes, rfl⟩ | ⟨rfl, rfl⟩
    · obtain ⟨used', t', rfl, hstop, hall⟩ := ihmore _ (Nat.lt_succ_self _) [] s' more' he.shorter
        hts.tail.tail.right.tail es' stop rest hes
      have hall' : AllLaidOut (⟨.comma, s'⟩ :: used') (es'.map Prod.snd) := hall.mono (by simp)
      exact ⟨_, t', by simp, hstop, .cons (hts.sublist (by simp)) hlaid' hall'⟩
    · exact ⟨_, _, rfl, rfl, .singleton hlaid'⟩
  case comparison =>
    intro ts ihleft ihright hts e rest h
    obtain ⟨l, mid, hl, hmid⟩ := gives_comparison_iff.1 h
    obtain ⟨used, rfl, hleft⟩ := ihleft hts l mid hl
    rcases hmid with ⟨op, mid', r, hop, hr, rfl⟩ | ⟨hop, rfl, rfl⟩
    · obtain ⟨skipped, rfl⟩ := comparison?_suffix hop
      obtain ⟨used', rfl, hright⟩ := ihright _ hl.shorter op mid' hop hts.right.right r rest hr
      have hright' : LaidOut (skipped ++ used') r := hright.mono (by simp)
      exact ⟨_, by simp, Expr.laidOut_joined (hts.sublist (by simp)) hleft hright'⟩
    · exact ⟨used, rfl, hleft⟩

end Parser

/-! ## Parsed expressions -/

namespace Expr

variable {e : Expr}

theorem laidOut_of_ofTokens (hts : Spaced ts) (h : ofTokens ts = .ok e) : LaidOut ts e := by
  unfold ofTokens at h
  rcases hrun : Parser.expression ts with err | ⟨e', rest, hrest⟩ <;> rw [hrun] at h
  · cases h
  cases rest with
  | cons found more => cases h
  | nil =>
    cases h
    obtain ⟨used, hused, hlaid⟩ := Parser.laying.1 ts hts e [] ⟨hrest, hrun⟩
    rwa [hused, List.append_nil]

theorem spaced_of_scan {source : String} (h : scan source = .ok ts) : Spaced ts :=
  ⟨(scans_of_scanFrom h).nonempty, (scans_of_scanFrom h).ordered⟩

/-- A parsed expression is laid out over the tokens of its text. -/
theorem exists_laidOut_of_parse {source : String} (h : parse source = .ok e) :
    ∃ ts, scan source = .ok ts ∧ LaidOut ts e := by
  unfold parse at h
  cases hscan : scan source with
  | error err => simp [hscan] at h
  | ok ts =>
    simp only [hscan] at h
    exact ⟨ts, rfl, laidOut_of_ofTokens (spaced_of_scan hscan) h⟩

end Expr

end ReleaseAudit
