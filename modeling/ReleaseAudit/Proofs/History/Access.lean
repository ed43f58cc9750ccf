import ReleaseAudit.History.Graph

/-!
# Computations with a state and a failure

What a sequence of such computations returns, and what it ensures when it runs from valid states only.
The state is kept when a computation fails, so that it stays valid then as well.
-/

namespace ReleaseAudit

namespace Access

variable {ε σ α β : Type}

theorem bind_apply (act : ExceptT ε (StateM σ) α) (next : α → ExceptT ε (StateM σ) β) (state : σ) :
    (act >>= next) state =
      match act state with
      | (.ok a, state) => next a state
      | (.error e, state) => (.error e, state) := by
  simp only [bind, ExceptT.bind, ExceptT.mk, StateT.bind, ExceptT.bindCont]
  rcases act state with ⟨_ | _, _⟩ <;> rfl

theorem bind_eq_ok_iff {act : ExceptT ε (StateM σ) α} {next : α → ExceptT ε (StateM σ) β}
    {state after : σ} {b : β} :
    (act >>= next) state = (.ok b, after) ↔
      ∃ a mid, act state = (.ok a, mid) ∧ next a mid = (.ok b, after) := by
  rw [bind_apply]
  constructor
  · intro h
    rcases hact : act state with ⟨e | a, mid⟩ <;> rw [hact] at h
    · cases h
    · exact ⟨a, mid, rfl, h⟩
  · rintro ⟨a, mid, hact, hnext⟩
    rw [hact]
    exact hnext

/-- A failure keeps the state that it ends in. -/
theorem bind_eq_error_iff {act : ExceptT ε (StateM σ) α} {next : α → ExceptT ε (StateM σ) β}
    {state after : σ} {e : ε} :
    (act >>= next) state = (.error e, after) ↔
      act state = (.error e, after) ∨
        ∃ a mid, act state = (.ok a, mid) ∧ next a mid = (.error e, after) := by
  rw [bind_apply]
  rcases hact : act state with ⟨e' | a, mid⟩ <;> dsimp only
  · constructor
    · rintro ⟨⟩
      exact .inl rfl
    · rintro (h | ⟨_, _, h, _⟩)
      · cases h
        rfl
      · cases h
  · constructor
    · exact fun h ↦ .inr ⟨a, mid, rfl, h⟩
    · rintro (h | ⟨_, _, h, hnext⟩)
      · cases h
      · cases h
        exact hnext

/-- A sequence fails as its first part does, or behind it. -/
theorem bind_error_iff {act : ExceptT ε (StateM σ) α} {next : α → ExceptT ε (StateM σ) β}
    {state : σ} {e : ε} :
    ((act >>= next) state).1 = .error e ↔
      (act state).1 = .error e ∨
        ∃ a mid, act state = (.ok a, mid) ∧ (next a mid).1 = .error e := by
  constructor
  · intro h
    have hrun : (act >>= next) state = (.error e, ((act >>= next) state).2) := Prod.ext h rfl
    rcases bind_eq_error_iff.1 hrun with hact | ⟨a, mid, hact, hnext⟩
    · exact .inl (congrArg Prod.fst hact)
    · exact .inr ⟨a, mid, hact, congrArg Prod.fst hnext⟩
  · rintro (hact | ⟨a, mid, hact, hnext⟩)
    · exact congrArg Prod.fst (bind_eq_error_iff.2 (.inl (Prod.ext hact rfl)))
    · exact congrArg Prod.fst (bind_eq_error_iff.2 (.inr ⟨a, mid, hact, Prod.ext hnext rfl⟩))

theorem pure_ne_error (a : α) (state : σ) (e : ε) :
    ((pure a : ExceptT ε (StateM σ) α) state).1 ≠ .error e := by
  intro h
  cases h

/-- What only changes the value of `act` fails when `act` does. -/
theorem map_error_iff {act : ExceptT ε (StateM σ) α} {f : α → β} {state : σ} {e : ε} :
    ((act >>= fun a ↦ pure (f a)) state).1 = .error e ↔ (act state).1 = .error e := by
  rw [bind_error_iff]
  constructor
  · rintro (h | ⟨a, mid, _, h⟩)
    · exact h
    · exact absurd h (pure_ne_error (f a) mid e)
  · exact .inl

variable {valid : σ → Prop}

/-- From a valid state `act` ends in one, with a result that satisfies `post`. -/
def Ensures (valid : σ → Prop) (act : Access σ α) (post : Except HistoryError α → Prop) : Prop :=
  ∀ state, valid state → post (act state).1 ∧ valid (act state).2

theorem ensures_pure {a : α} {post : Except HistoryError α → Prop} (h : post (.ok a)) :
    Ensures valid (pure a) post := fun _ hstate ↦ ⟨h, hstate⟩

theorem Ensures.bind {act : Access σ α} {next : α → Access σ β}
    {mid : Except HistoryError α → Prop} {post : Except HistoryError β → Prop}
    (hact : Ensures valid act mid) (herror : ∀ e, mid (.error e) → post (.error e))
    (hok : ∀ a, mid (.ok a) → Ensures valid (next a) post) : Ensures valid (act >>= next) post := by
  intro state hstate
  obtain ⟨hmid, hvalid⟩ := hact state hstate
  rw [bind_apply]
  rcases hrun : act state with ⟨e | a, after⟩ <;> rw [hrun] at hmid hvalid
  · exact ⟨herror e hmid, hvalid⟩
  · exact hok a hmid after hvalid

theorem Ensures.mono {act : Access σ α} {post weaker : Except HistoryError α → Prop}
    (hact : Ensures valid act post) (h : ∀ result, post result → weaker result) :
    Ensures valid act weaker := fun state hstate ↦
  ⟨h _ (hact state hstate).1, (hact state hstate).2⟩

/-! ## One after the other -/

/-- The computations for some items run one after the other, each from the state that the one before
leaves, and none of them fails. -/
inductive InTurn (act : α → ExceptT ε (StateM σ) β) : List α → σ → List β → σ → Prop
  | nil {state : σ} : InTurn act [] state [] state
  | cons {a : α} {as : List α} {b : β} {bs : List β} {state mid after : σ} :
      act a state = (.ok b, mid) → InTurn act as mid bs after →
      InTurn act (a :: as) state (b :: bs) after

variable {act : α → ExceptT ε (StateM σ) β} {a : α} {as : List α} {b : β} {bs : List β}
  {state after : σ} {e : ε}

theorem inTurn_nil_iff : InTurn act [] state bs after ↔ bs = [] ∧ after = state := by
  constructor
  · rintro ⟨⟩
    exact ⟨rfl, rfl⟩
  · rintro ⟨rfl, rfl⟩
    exact .nil

theorem inTurn_cons_iff : InTurn act (a :: as) state bs after ↔
    ∃ b mid bs', act a state = (.ok b, mid) ∧ InTurn act as mid bs' after ∧ bs = b :: bs' := by
  constructor
  · rintro ⟨⟩
    exact ⟨_, _, _, ‹_›, ‹_›, rfl⟩
  · rintro ⟨b, mid, bs', hfirst, hrest, rfl⟩
    exact .cons hfirst hrest

theorem inTurn_append_iff {as' : List α} : InTurn act (as ++ as') state bs after ↔
    ∃ bs₁ mid bs₂, InTurn act as state bs₁ mid ∧ InTurn act as' mid bs₂ after ∧ bs = bs₁ ++ bs₂ := by
  induction as generalizing state bs with
  | nil =>
    rw [List.nil_append]
    constructor
    · exact fun h ↦ ⟨[], state, bs, .nil, h, rfl⟩
    · rintro ⟨_, _, bs₂, ⟨⟩, h, rfl⟩
      exact h
  | cons a as ih =>
    rw [List.cons_append]
    constructor
    · rintro ⟨⟩
      rename_i hfirst hrest
      obtain ⟨bs₁, mid, bs₂, hfront, hback, rfl⟩ := ih.1 hrest
      exact ⟨_, mid, bs₂, .cons hfirst hfront, hback, rfl⟩
    · rintro ⟨_, mid, bs₂, hfront, hback, rfl⟩
      cases hfront with
      | cons hfirst hrest => exact .cons hfirst (ih.2 ⟨_, mid, bs₂, hrest, hback, rfl⟩)

theorem InTurn.length_eq (h : InTurn act as state bs after) : as.length = bs.length := by
  induction h with
  | nil => rfl
  | cons _ _ ih => exact congrArg (· + 1) ih

theorem mapM_eq_ok_iff : as.mapM act state = (.ok bs, after) ↔ InTurn act as state bs after := by
  induction as generalizing state bs with
  | nil =>
    rw [List.mapM_nil, inTurn_nil_iff]
    constructor
    · rintro ⟨⟩
      exact ⟨rfl, rfl⟩
    · rintro ⟨rfl, rfl⟩
      rfl
  | cons a as ih =>
    rw [List.mapM_cons, bind_eq_ok_iff, inTurn_cons_iff]
    apply exists_congr
    intro b
    apply exists_congr
    intro mid
    rw [bind_eq_ok_iff]
    constructor
    · rintro ⟨hfirst, bs', after', hrest, heq⟩
      cases heq
      exact ⟨bs', hfirst, ih.1 hrest, rfl⟩
    · rintro ⟨bs', hfirst, hrest, rfl⟩
      exact ⟨hfirst, bs', after, ih.2 hrest, rfl⟩

/-- The computation of an item fails in the state that those of the items in front of it leave. -/
inductive FailsInTurn (act : α → ExceptT ε (StateM σ) β) (as : List α) (state : σ) (a : α) (e : ε)
    (after : σ) : Prop
  | intro {front back : List α} {bs : List β} {mid : σ} :
      as = front ++ a :: back → InTurn act front state bs mid → act a mid = (.error e, after) →
      FailsInTurn act as state a e after

theorem failsInTurn_cons_iff {failing : α} : FailsInTurn act (a :: as) state failing e after ↔
    (failing = a ∧ act a state = (.error e, after)) ∨
      ∃ b mid, act a state = (.ok b, mid) ∧ FailsInTurn act as mid failing e after := by
  constructor
  · rintro ⟨happend, hfront, hfails⟩
    cases hfront with
    | nil =>
      cases happend
      exact .inl ⟨rfl, hfails⟩
    | cons hfirst hrest =>
      cases happend
      exact .inr ⟨_, _, hfirst, rfl, hrest, hfails⟩
  · rintro (⟨rfl, hfails⟩ | ⟨b, mid, hfirst, rfl, hrest, hfails⟩)
    · exact ⟨rfl, .nil, hfails⟩
    · exact ⟨rfl, .cons hfirst hrest, hfails⟩

theorem mapM_eq_error_iff : as.mapM act state = (.error e, after) ↔
    ∃ a, FailsInTurn act as state a e after := by
  induction as generalizing state with
  | nil =>
    rw [List.mapM_nil]
    constructor
    · rintro ⟨⟩
    · rintro ⟨a, happend, -, -⟩
      simp at happend
  | cons a as ih =>
    have hrest (b : β) (mid : σ) :
        (as.mapM act >>= fun bs ↦ pure (b :: bs)) mid = (.error e, after) ↔
          ∃ failing, FailsInTurn act as mid failing e after := by
      rw [bind_eq_error_iff, ih]
      constructor
      · rintro (h | ⟨_, _, _, h⟩)
        · exact h
        · cases h
      · exact .inl
    simp only [List.mapM_cons, bind_eq_error_iff, hrest, failsInTurn_cons_iff]
    grind

end Access

end ReleaseAudit
