import ReleaseAudit.Proofs.History.Reachability

/-!
# Graphs that hand out the same commits

Two graphs may keep their commits in different ways. Where they hand out the same commits, whatever
their states, all walks over their commits return the same.
-/

namespace ReleaseAudit

namespace Access

variable {ε σ τ α β : Type} {R : σ → τ → Prop}

/-- From related states both computations return the same and end in related states, and a value
that they return satisfies `post`. -/
def Matches (R : σ → τ → Prop) (post : α → Prop) (act : ExceptT ε (StateM σ) α)
    (act' : ExceptT ε (StateM τ) α) : Prop :=
  ∀ s s', R s s' →
    (act s).1 = (act' s').1 ∧ R (act s).2 (act' s').2 ∧ ∀ a, (act s).1 = .ok a → post a

theorem matches_pure {a : α} {post : α → Prop} (h : post a) :
    Matches R post (pure a : ExceptT ε (StateM σ) α) (pure a) := by
  intro s s' hs
  refine ⟨rfl, hs, fun b hb ↦ ?_⟩
  cases hb
  exact h

theorem Matches.bind {act : ExceptT ε (StateM σ) α} {act' : ExceptT ε (StateM τ) α}
    {next : α → ExceptT ε (StateM σ) β} {next' : α → ExceptT ε (StateM τ) β} {mid : α → Prop}
    {post : β → Prop} (hact : Matches R mid act act')
    (hnext : ∀ a, mid a → Matches R post (next a) (next' a)) :
    Matches R post (act >>= next) (act' >>= next') := by
  intro s s' hs
  obtain ⟨hresult, hstates, hmid⟩ := hact s s' hs
  rw [bind_apply, bind_apply]
  rcases hrun : act s with ⟨e | a, after⟩ <;> rcases hrun' : act' s' with ⟨e' | a', after'⟩ <;>
    rw [hrun, hrun'] at hresult hstates <;> cases hresult
  · exact ⟨rfl, hstates, nofun⟩
  · rw [hrun] at hmid
    exact hnext a (hmid a rfl) after after' hstates

end Access

namespace CommitGraph

open Access (Matches matches_pure)

variable {σ τ : Type} {g : CommitGraph σ} {g' : CommitGraph τ} {R : σ → τ → Prop}
  {requested : String → Prop}

/-- From related states both graphs hand out the same commit for any hash that is requested, and the
parents of this commit may be requested, too. -/
def Mirrors (g : CommitGraph σ) (g' : CommitGraph τ) (R : σ → τ → Prop)
    (requested : String → Prop) : Prop :=
  ∀ hash, requested hash → ∃ commit, (∀ p ∈ commit.parents, requested p) ∧
    ∀ s s', R s s' → ∃ hk hk' after after', g.fetch hash s = (.ok ⟨commit, hk⟩, after) ∧
      g'.fetch hash s' = (.ok ⟨commit, hk'⟩, after') ∧ R after after'

variable (hmirrors : Mirrors g g' R requested)

include hmirrors

theorem Mirrors.bind_fetch {β : Type} {hash : String} {post : β → Prop}
    {next : { _c : Commit // hash ∈ g.known } → Access σ β}
    {next' : { _c : Commit // hash ∈ g'.known } → Access τ β} (hhash : requested hash)
    (hnext : ∀ commit hk hk', (∀ p ∈ commit.parents, requested p) →
      Matches R post (next ⟨commit, hk⟩) (next' ⟨commit, hk'⟩)) :
    Matches R post (g.fetch hash >>= next) (g'.fetch hash >>= next') := by
  intro s s' hs
  obtain ⟨commit, hparents, hfetch⟩ := hmirrors hash hhash
  obtain ⟨hk, hk', after, after', hrun, hrun', hstates⟩ := hfetch s s' hs
  rw [Access.bind_apply, Access.bind_apply, hrun, hrun']
  exact hnext commit hk hk' hparents after after' hstates

/-! ## Collecting ancestors -/

theorem Mirrors.collectAncestors (seen pending : List String) (hseen : ∀ x ∈ seen, requested x)
    (hpending : ∀ x ∈ pending, requested x) :
    Matches R (∀ x ∈ ·, requested x) (g.collectAncestors seen pending)
      (g'.collectAncestors seen pending) := by
  fun_induction CommitGraph.collectAncestors g seen pending with
  | case1 seen =>
    rw [CommitGraph.collectAncestors]
    exact matches_pure hseen
  | case2 seen hash rest hs ih =>
    rw [CommitGraph.collectAncestors, dif_pos hs]
    exact ih hseen fun x hx ↦ hpending x (List.mem_cons_of_mem _ hx)
  | case3 seen hash rest hs ih =>
    obtain ⟨hhash, hrest⟩ := List.forall_mem_cons.1 hpending
    rw [CommitGraph.collectAncestors, dif_neg hs]
    refine hmirrors.bind_fetch hhash fun commit hk hk' hparents ↦ ?_
    refine ih commit hk (List.forall_mem_cons.2 ⟨hhash, hseen⟩) fun x hx ↦ ?_
    rcases List.mem_append.1 hx with hparent | hx
    · exact hparents x (List.mem_of_mem_filter (List.mem_reverse.1 hparent))
    · exact hrest x hx

theorem Mirrors.ancestors {start : String} (hstart : requested start) :
    Matches R (∀ x ∈ ·, requested x) (g.ancestors start) (g'.ancestors start) :=
  hmirrors.collectAncestors [] [start] (by simp) (by simpa using hstart)

theorem Mirrors.collectBreadthFirst (seen pending : List String)
    (hpending : ∀ x ∈ pending, requested x) :
    Matches R (fun _ ↦ True) (g.collectBreadthFirst seen pending)
      (g'.collectBreadthFirst seen pending) := by
  fun_induction CommitGraph.collectBreadthFirst g seen pending with
  | case1 seen =>
    rw [CommitGraph.collectBreadthFirst]
    exact matches_pure trivial
  | case2 seen hash rest hs ih =>
    rw [CommitGraph.collectBreadthFirst, dif_pos hs]
    exact ih fun x hx ↦ hpending x (List.mem_cons_of_mem _ hx)
  | case3 seen hash rest hs ih =>
    obtain ⟨hhash, hrest⟩ := List.forall_mem_cons.1 hpending
    rw [CommitGraph.collectBreadthFirst, dif_neg hs]
    refine hmirrors.bind_fetch hhash fun commit hk hk' hparents ↦ ?_
    refine ih commit hk fun x hx ↦ ?_
    rcases List.mem_append.1 hx with hx | hparent
    · exact hrest x hx
    · exact hparents x (List.mem_of_mem_filter hparent)

theorem Mirrors.parentsOf (hashes : List String) (hhashes : ∀ x ∈ hashes, requested x) :
    Matches R (∀ x ∈ ·, requested x) (g.parentsOf hashes) (g'.parentsOf hashes) := by
  induction hashes with
  | nil => exact matches_pure (by simp)
  | cons hash rest ih =>
    obtain ⟨hhash, hrest⟩ := List.forall_mem_cons.1 hhashes
    refine hmirrors.bind_fetch hhash fun commit hk hk' hparents ↦ ?_
    refine (ih hrest).bind fun parents hmore ↦ matches_pure fun x hx ↦ ?_
    rcases List.mem_append.1 hx with hparent | hparent
    · exact hparents x hparent
    · exact hmore x hparent

theorem Mirrors.mergeBases {a b : String} (ha : requested a) (hb : requested b) :
    Matches R (fun _ ↦ True) (g.mergeBases a b) (g'.mergeBases a b) := by
  unfold CommitGraph.mergeBases
  refine (hmirrors.ancestors ha).bind fun left hleft ↦ (hmirrors.ancestors hb).bind fun right _ ↦ ?_
  have hcommon (x : String) (hx : x ∈ left.reverse.filter (· ∈ right)) : requested x :=
    hleft x (List.mem_reverse.1 (List.mem_of_mem_filter hx))
  refine (hmirrors.parentsOf _ hcommon).bind fun parents hparents ↦ ?_
  exact (hmirrors.collectBreadthFirst [] parents hparents).bind fun _ _ ↦ matches_pure trivial

theorem Mirrors.collectRange (excluded : List String) (included : List (String × Commit))
    (pending : List String) (hpending : ∀ x ∈ pending, requested x) :
    Matches R (fun _ ↦ True) (g.collectRange excluded included pending)
      (g'.collectRange excluded included pending) := by
  fun_induction CommitGraph.collectRange g excluded included pending with
  | case1 included =>
    rw [CommitGraph.collectRange]
    exact matches_pure trivial
  | case2 included hash rest hs ih =>
    rw [CommitGraph.collectRange, dif_pos hs]
    exact ih fun x hx ↦ hpending x (List.mem_cons_of_mem _ hx)
  | case3 included hash rest hs he ih =>
    rw [CommitGraph.collectRange, dif_neg hs, if_pos he]
    exact ih fun x hx ↦ hpending x (List.mem_cons_of_mem _ hx)
  | case4 included hash rest hs he ih =>
    obtain ⟨hhash, hrest⟩ := List.forall_mem_cons.1 hpending
    rw [CommitGraph.collectRange, dif_neg hs, if_neg he]
    refine hmirrors.bind_fetch hhash fun commit hk hk' hparents ↦ ?_
    refine ih commit hk fun x hx ↦ ?_
    rcases List.mem_append.1 hx with hparent | hx
    · exact hparents x (List.mem_reverse.1 hparent)
    · exact hrest x hx

theorem Mirrors.commitRange {base head : String} (hbase : requested base)
    (hhead : requested head) :
    Matches R (fun _ ↦ True) (g.commitRange base head) (g'.commitRange base head) := by
  unfold CommitGraph.commitRange
  refine (hmirrors.ancestors hbase).bind fun excluded _ ↦ ?_
  refine (hmirrors.collectRange excluded [] [head] (by simpa using hhead)).bind fun _ _ ↦ ?_
  exact matches_pure trivial

/-! ## Notes about reachability -/

omit hmirrors in
/-- The notes are the same, and the states are related. -/
def SameNotes (R : σ → τ → Prop) (s : Reachability × σ) (s' : Reachability × τ) : Prop :=
  s.1 = s'.1 ∧ R s.2 s'.2

theorem Mirrors.explore_matches :
    (∀ above hash, requested hash →
      Matches (SameNotes R) (fun _ ↦ True) (g.explore above hash) (g'.explore above hash)) ∧
    ∀ above hashes, (∀ x ∈ hashes, requested x) →
      Matches (SameNotes R) (fun _ ↦ True) (g.exploreAll above hashes)
        (g'.exploreAll above hashes) := by
  refine explore.mutual_induct g _ _ ?explore ?nil ?cons
  case nil =>
    intro above _
    rw [exploreAll, exploreAll]
    exact matches_pure trivial
  case cons =>
    intro above hash rest ihhead ihrest hhashes
    obtain ⟨hhash, hrest⟩ := List.forall_mem_cons.1 hhashes
    rw [exploreAll, exploreAll]
    exact (ihhead hhash).bind fun _ _ ↦ ihrest hrest
  case explore =>
    rintro above hash ih hhash ⟨r, s⟩ ⟨_, s'⟩ ⟨rfl, hs⟩
    rw [explore_apply, explore_apply]
    by_cases hnoted : (r.note? hash).isSome
    · rw [if_pos hnoted, if_pos hnoted]
      exact ⟨rfl, ⟨rfl, hs⟩, fun _ _ ↦ trivial⟩
    rw [if_neg hnoted, if_neg hnoted]
    by_cases htarget : hash = r.target
    · rw [if_pos htarget, if_pos htarget]
      exact ⟨rfl, ⟨rfl, hs⟩, fun _ _ ↦ trivial⟩
    rw [if_neg htarget, if_neg htarget]
    by_cases ha : hash ∈ above
    · rw [if_pos ha, if_pos ha]
      exact ⟨rfl, ⟨rfl, hs⟩, fun _ _ ↦ trivial⟩
    rw [if_neg ha, if_neg ha]
    obtain ⟨commit, hparents, hfetch⟩ := hmirrors hash hhash
    obtain ⟨hk, hk', mid, mid', hrun, hrun', hmid⟩ := hfetch s s' hs
    obtain ⟨hresult, hstates, -⟩ := ih ha commit hk hparents (r, mid) (r, mid') ⟨rfl, hmid⟩
    simp only [hrun, hrun']
    rcases hall : g.exploreAll (hash :: above) commit.parents (r, mid) with ⟨e | _, notes, last⟩ <;>
      rcases hall' : g'.exploreAll (hash :: above) commit.parents (r, mid') with
        ⟨e' | _, notes', last'⟩ <;>
      rw [hall, hall'] at hresult hstates <;> cases hresult <;> obtain ⟨rfl, hlast⟩ := hstates
    · exact ⟨rfl, ⟨rfl, hlast⟩, fun _ _ ↦ trivial⟩
    · exact ⟨rfl, ⟨rfl, hlast⟩, fun _ _ ↦ trivial⟩

theorem Mirrors.reaches {start : String} (hstart : requested start) :
    Matches (SameNotes R) (fun _ ↦ True) (g.reaches start) (g'.reaches start) := by
  unfold CommitGraph.reaches
  refine (hmirrors.explore_matches.1 [] start hstart).bind fun _ _ ↦ ?_
  rintro ⟨r, s⟩ ⟨_, s'⟩ ⟨rfl, hs⟩
  exact ⟨rfl, ⟨rfl, hs⟩, fun _ _ ↦ trivial⟩

/-- Queries one after the other have the same answers, though the notes are kept. -/
theorem Mirrors.answers {queries : List String} (hqueries : ∀ x ∈ queries, requested x)
    {s : Reachability × σ} {s' : Reachability × τ} (hs : SameNotes R s s') :
    g.answers queries s = g'.answers queries s' := by
  induction queries generalizing s s' with
  | nil => rfl
  | cons start rest ih =>
    obtain ⟨hstart, hrest⟩ := List.forall_mem_cons.1 hqueries
    obtain ⟨hanswer, hafter, -⟩ := hmirrors.reaches hstart s s' hs
    change (g.reaches start s).1 :: g.answers rest (g.reaches start s).2 = _
    rw [hanswer, ih hrest hafter]
    rfl

end CommitGraph

end ReleaseAudit
