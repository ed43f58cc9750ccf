import Mathlib.Data.List.Basic
import ReleaseAudit.Proofs.Component.Name
import ReleaseAudit.Proofs.Dict
import ReleaseAudit.Proofs.History.Access
import ReleaseAudit.Source.Commits

/-!
# What a source of commits contributes

A source resolves the components that changed one after the other. When all of them resolve, it
contributes what was found for each, and all commits and branches in the same order. When one of them
does not, the source keeps what it has gathered so far to itself, and nothing behind this component is
resolved.
-/

namespace ReleaseAudit

open Access (InTurn FailsInTurn)

/-- The elements of `all`, each at the place of its first occurrence. -/
structure FirstOccurrences (all names : List String) : Prop where
  nodup : names.Nodup
  mem_iff : ∀ name, name ∈ names ↔ name ∈ all
  ascending : names.Pairwise fun a b ↦ all.idxOf a < all.idxOf b

namespace FirstOccurrences

variable {all names : List String} {name : String}

/-- The places stay when something is added behind all. -/
theorem ascending_append (h : FirstOccurrences all names) (more : List String) :
    names.Pairwise fun a b ↦ (all ++ more).idxOf a < (all ++ more).idxOf b := by
  refine h.ascending.imp_of_mem fun {a b} ha hb hlt ↦ ?_
  rwa [List.idxOf_append_of_mem ((h.mem_iff a).1 ha), List.idxOf_append_of_mem ((h.mem_iff b).1 hb)]

theorem append_of_mem (h : FirstOccurrences all names) (hmem : name ∈ all) :
    FirstOccurrences (all ++ [name]) names where
  nodup := h.nodup
  mem_iff x := by
    rw [h.mem_iff, List.mem_append, List.mem_singleton]
    exact (or_iff_left_of_imp fun heq ↦ heq ▸ hmem).symm
  ascending := h.ascending_append [name]

theorem append_of_notMem (h : FirstOccurrences all names) (hnot : name ∉ all) :
    FirstOccurrences (all ++ [name]) (names ++ [name]) where
  nodup := by
    have hname : name ∉ names := fun hmem ↦ hnot ((h.mem_iff name).1 hmem)
    simpa [List.nodup_append] using ⟨h.nodup, fun a ha heq ↦ hname (heq ▸ ha)⟩
  mem_iff x := by rw [List.mem_append, List.mem_append, h.mem_iff]
  ascending := by
    refine List.pairwise_append.2 ⟨h.ascending_append [name], List.pairwise_singleton _ _, ?_⟩
    rintro a ha b hb
    have ha : a ∈ all := (h.mem_iff a).1 ha
    rw [List.mem_singleton.1 hb, List.idxOf_append_of_mem ha, List.idxOf_append_of_notMem hnot]
    exact Nat.lt_add_right _ (List.idxOf_lt_length_of_mem ha)

end FirstOccurrences

namespace ComponentHistory

variable {σ : Type} {resolve : Resolver σ} {change : ComponentChange} {changes : List ComponentChange}
  {found : List (Provenance × BranchSet)} {history : ComponentHistory}
  {histories : List ComponentHistory} {state after : σ} {e : SourceError}

/-! ## Histories -/

/-- The resolver opens the repository of a component, and resolves both revisions there. -/
def resolution (resolve : Resolver σ) (change : ComponentChange) :
    Resolving σ (Provenance × BranchSet) :=
  resolve change.url change.oldRevision change.newRevision

theorem ofChange_eq_ok_iff : ofChange resolve change state = (.ok history, after) ↔
    ∃ found, resolution resolve change state = (.ok found, after) ∧
      history = between change found := by
  unfold ofChange resolution
  rcases resolve change.url change.oldRevision change.newRevision state with ⟨cause | found, mid⟩
  · constructor
    · intro h
      cases congrArg Prod.fst h
    · rintro ⟨_, h, -⟩
      cases congrArg Prod.fst h
  · constructor
    · rintro ⟨⟩
      exact ⟨found, rfl, rfl⟩
    · rintro ⟨_, ⟨⟩, rfl⟩
      rfl

/-- A failure names the component. -/
theorem ofChange_eq_error_iff : ofChange resolve change state = (.error e, after) ↔
    ∃ cause, resolution resolve change state = (.error cause, after) ∧
      e = .component (Component.name change.url) cause := by
  unfold ofChange resolution
  rcases resolve change.url change.oldRevision change.newRevision state with ⟨cause | found, mid⟩
  · constructor
    · rintro ⟨⟩
      exact ⟨cause, rfl, rfl⟩
    · rintro ⟨_, ⟨⟩, rfl⟩
      rfl
  · constructor
    · intro h
      cases congrArg Prod.fst h
    · rintro ⟨_, h, -⟩
      cases congrArg Prod.fst h

theorem inTurn_ofChange_iff : InTurn (ofChange resolve) changes state histories after ↔
    ∃ found, InTurn (resolution resolve) changes state found after ∧
      histories = List.zipWith between changes found := by
  induction changes generalizing state histories with
  | nil => simp [Access.inTurn_nil_iff, and_comm]
  | cons change changes ih =>
    constructor
    · rintro ⟨⟩
      rename_i hfirst hrest
      obtain ⟨f, hf, rfl⟩ := ofChange_eq_ok_iff.1 hfirst
      obtain ⟨found, hfound, rfl⟩ := ih.1 hrest
      exact ⟨f :: found, .cons hf hfound, rfl⟩
    · rintro ⟨_, hfound, rfl⟩
      cases hfound with
      | cons hf hrest =>
        exact .cons (ofChange_eq_ok_iff.2 ⟨_, hf, rfl⟩) (ih.2 ⟨_, hrest, rfl⟩)

theorem failsInTurn_ofChange_iff : FailsInTurn (ofChange resolve) changes state change e after ↔
    ∃ cause, FailsInTurn (resolution resolve) changes state change cause after ∧
      e = .component (Component.name change.url) cause := by
  constructor
  · rintro ⟨happend, hfront, hfails⟩
    obtain ⟨found, hfound, -⟩ := inTurn_ofChange_iff.1 hfront
    obtain ⟨cause, hcause, rfl⟩ := ofChange_eq_error_iff.1 hfails
    exact ⟨cause, ⟨happend, hfound, hcause⟩, rfl⟩
  · rintro ⟨cause, ⟨happend, hfound, hcause⟩, rfl⟩
    exact ⟨happend, inTurn_ofChange_iff.2 ⟨_, hfound, rfl⟩, ofChange_eq_error_iff.2 ⟨cause, hcause, rfl⟩⟩

theorem ofReleases_eq_ok_iff {old new : Release} :
    ofReleases resolve old new state = (.ok histories, after) ↔
      ∃ found, InTurn (resolution resolve) (Component.changed old.components new.components) state
          found after ∧
        histories = List.zipWith between (Component.changed old.components new.components) found :=
  Access.mapM_eq_ok_iff.trans inTurn_ofChange_iff

theorem ofReleases_eq_error_iff {old new : Release} :
    ofReleases resolve old new state = (.error e, after) ↔
      ∃ change cause, FailsInTurn (resolution resolve)
          (Component.changed old.components new.components) state change cause after ∧
        e = .component (Component.name change.url) cause :=
  Access.mapM_eq_error_iff.trans (exists_congr fun _ ↦ failsInTurn_ofChange_iff)

/-! ## Their summary -/

theorem distinct_concat (names : List String) (name : String) :
    summary.distinct (names ++ [name]) =
      if name ∈ summary.distinct names then summary.distinct names
      else summary.distinct names ++ [name] := by
  simp only [summary.distinct, List.foldl_append, List.foldl_cons, List.foldl_nil, List.mem_reverse]
  split
  · rfl
  · exact List.reverse_cons

theorem firstOccurrences_distinct (names : List String) :
    FirstOccurrences names (summary.distinct names) := by
  induction names using List.reverseRecOn with
  | nil => exact ⟨.nil, fun _ ↦ .rfl, .nil⟩
  | append_singleton names name ih =>
    rw [distinct_concat]
    split
    · rename_i hmem
      exact ih.append_of_mem ((ih.mem_iff name).1 hmem)
    · rename_i hnot
      exact ih.append_of_notMem fun hmem ↦ hnot ((ih.mem_iff name).2 hmem)

/-- What is told of a commit, in the order of the keys. -/
def toldOfCommit (c : Commit) : Dict Value :=
  [("author", .string c.author), ("hash", .string c.hash), ("message", .string c.message),
    ("parents", .list (c.parents.map .string))]

/-- What is told of a component that changed and of what was found for it, in the order of the keys. -/
def told (change : ComponentChange) (found : Provenance × BranchSet) : Dict Value :=
  [("branches", .list ((found.2.branches.map Branch.name).map .string)),
    ("commits", .list (found.1.commits.map fun c ↦ .map (toldOfCommit c))),
    ("mergeBase", .string found.1.mergeBase), ("name", .string (Component.name change.url)),
    ("new", .string change.newRevision), ("old", .string change.oldRevision),
    ("url", .string change.url)]

theorem toValue_commit (c : Commit) : c.toValue = .map (toldOfCommit c) := rfl

theorem toValue_between (change : ComponentChange) (found : Provenance × BranchSet) :
    (between change found).toValue = .map (told change found) := rfl

/-- What a source contributes for the components that changed and for what was found for them. -/
structure Contributes (changes : List ComponentChange) (found : List (Provenance × BranchSet))
    (entries : Dict Value) : Prop where
  components : entries.get? "components" =
    some (.list (List.zipWith (fun change f ↦ .map (told change f)) changes found))
  commits : entries.get? "commits" =
    some (.list ((found.flatMap (·.1.commits)).map fun c ↦ .map (toldOfCommit c)))
  branches : ∃ names : List String, entries.get? "branches" = some (.list (names.map .string)) ∧
    FirstOccurrences (found.flatMap fun f ↦ f.2.branches.map Branch.name) names
  branch : entries.get? "branch" =
    some (.string ((changes.getLast?.map (·.newRevision)).getD ""))

theorem summary_contributes (projectKey : String) (h : changes.length = found.length) :
    ∃ entries, summary projectKey (List.zipWith between changes found) = .map entries ∧
      Contributes changes found entries := by
  obtain ⟨pairs, rfl, rfl⟩ : ∃ pairs : List (ComponentChange × (Provenance × BranchSet)),
      changes = pairs.map Prod.fst ∧ found = pairs.map Prod.snd :=
    ⟨changes.zip found, (List.map_fst_zip (Nat.le_of_eq h)).symm,
      (List.map_snd_zip (Nat.le_of_eq h.symm)).symm⟩
  have hpairs : List.zipWith between (pairs.map Prod.fst) (pairs.map Prod.snd) =
      pairs.map fun pair ↦ between pair.1 pair.2 := by
    rw [List.zipWith_map, List.zipWith_self]
  rw [summary]
  refine ⟨_, rfl, ?_, ?_, ⟨summary.distinct _, ?_, firstOccurrences_distinct _⟩, ?_⟩
  all_goals rw [Dict.get?_ofList_eq_some_iff (by simp), hpairs]
  · simp [toValue_between]
  · simp [List.flatMap_map, between, toValue_commit]
  · simp [List.flatMap_map, between, Value.ofStrings, BranchSet.names]
  · simp [between, Function.comp_def]

end ComponentHistory

namespace CommitSource

open ComponentHistory

variable {σ : Type} {resolve : Resolver σ} {projectKey : String} {old new : Release}
  {change : ComponentChange} {changes : List ComponentChange} {history : ComponentHistory}
  {histories : List ComponentHistory} {source loaded : CommitSource} {state after : σ}
  {e : SourceError}

/-! ## Loading -/

theorem gather_of_ok (h : ofChange resolve change state = (.ok history, after)) :
    gather resolve change (source, state) =
      (.ok (), { source with histories := source.histories ++ [history] }, after) := by
  simp only [gather, h]

theorem gather_of_error (h : ofChange resolve change state = (.error e, after)) :
    gather resolve change (source, state) = (.error e, source, after) := by
  simp only [gather, h]

theorem forM_gather_of_inTurn (source : CommitSource)
    (h : InTurn (ofChange resolve) changes state histories after) :
    changes.forM (gather resolve) (source, state) =
      (.ok (), { source with histories := source.histories ++ histories }, after) := by
  induction h generalizing source with
  | nil =>
    rw [List.append_nil]
    rfl
  | cons hfirst _ ih =>
    rw [List.append_cons]
    exact Access.bind_eq_ok_iff.2 ⟨(), _, gather_of_ok hfirst, ih _⟩

/-- What is gathered in front of a failure stays. -/
theorem forM_gather_of_failsInTurn (source : CommitSource)
    (h : FailsInTurn (ofChange resolve) changes state change e after) :
    ∃ histories, changes.forM (gather resolve) (source, state) =
      (.error e, { source with histories }, after) := by
  obtain @⟨front, back, gathered, mid, rfl, hfront, hfails⟩ := h
  refine ⟨source.histories ++ gathered, ?_⟩
  rw [List.forM_eq_forM, List.forM_append]
  refine Access.bind_eq_error_iff.2 (.inr ⟨(), _, forM_gather_of_inTurn source hfront, ?_⟩)
  exact Access.bind_eq_error_iff.2 (.inl (gather_of_error hfails))

theorem load_of_ok (source : CommitSource)
    (h : ofReleases resolve old new state = (.ok histories, after)) :
    load resolve projectKey old new (source, state) =
      (.ok (), { histories := source.histories ++ histories,
                 value := summary projectKey (source.histories ++ histories) }, after) := by
  have hgather := forM_gather_of_inTurn source (Access.mapM_eq_ok_iff.1 h)
  exact Access.bind_eq_ok_iff.2 ⟨(), _, hgather, rfl⟩

theorem load_of_error (projectKey : String) (source : CommitSource)
    (h : ofReleases resolve old new state = (.error e, after)) :
    ∃ histories, load resolve projectKey old new (source, state) =
      (.error e, { source with histories }, after) := by
  obtain ⟨change, hfails⟩ := Access.mapM_eq_error_iff.1 h
  obtain ⟨histories, hgather⟩ := forM_gather_of_failsInTurn source hfails
  exact ⟨histories, Access.bind_eq_error_iff.2 (.inl hgather)⟩

theorem load_eq_ok_iff : load resolve projectKey old new (source, state) = (.ok (), loaded, after) ↔
    ∃ histories, ofReleases resolve old new state = (.ok histories, after) ∧
      loaded = { histories := source.histories ++ histories,
                 value := summary projectKey (source.histories ++ histories) } := by
  constructor
  · intro h
    rcases hreleases : ofReleases resolve old new state with ⟨e | histories, mid⟩
    · obtain ⟨histories, hload⟩ := load_of_error projectKey source hreleases
      rw [hload] at h
      cases congrArg Prod.fst h
    · rw [load_of_ok source hreleases] at h
      cases h
      exact ⟨histories, rfl, rfl⟩
  · rintro ⟨histories, hreleases, rfl⟩
    exact load_of_ok source hreleases

/-- A load that fails leaves what the source contributes. -/
theorem load_eq_error
    (h : load resolve projectKey old new (source, state) = (.error e, loaded, after)) :
    ofReleases resolve old new state = (.error e, after) ∧
      loaded.contribute = source.contribute := by
  rcases hreleases : ofReleases resolve old new state with ⟨e | histories, mid⟩
  · obtain ⟨histories, hload⟩ := load_of_error projectKey source hreleases
    rw [hload] at h
    cases h
    exact ⟨rfl, rfl⟩
  · rw [load_of_ok source hreleases] at h
    cases congrArg Prod.fst h

/-- The first load of a new source, from the components that changed to what it contributes. -/
structure FirstLoad (resolve : Resolver σ) (projectKey : String) (old new : Release) (state : σ) :
    Prop where
  ok_iff : ∀ after,
    (∃ source, load resolve projectKey old new ({}, state) = (.ok (), source, after)) ↔
      ∃ found, InTurn (resolution resolve) (Component.changed old.components new.components) state
        found after
  contributes : ∀ source after,
    load resolve projectKey old new ({}, state) = (.ok (), source, after) →
      ∃ found entries, InTurn (resolution resolve)
          (Component.changed old.components new.components) state found after ∧
        source.contribute = .map entries ∧
        Contributes (Component.changed old.components new.components) found entries
  /-- What an entry or a failure calls a component is its name. -/
  named : ∀ change ∈ Component.changed old.components new.components,
    Component.Names change.url (Component.name change.url)
  /-- The failure names the component, and no repository is opened behind it. -/
  error_iff : ∀ e after,
    (∃ source, load resolve projectKey old new ({}, state) = (.error e, source, after)) ↔
      ∃ change cause, FailsInTurn (resolution resolve)
          (Component.changed old.components new.components) state change cause after ∧
        e = .component (Component.name change.url) cause
  contribute_null : ∀ e source after,
    load resolve projectKey old new ({}, state) = (.error e, source, after) →
      source.contribute = .null

theorem load_first (resolve : Resolver σ) (projectKey : String) (old new : Release) (state : σ) :
    FirstLoad resolve projectKey old new state where
  ok_iff after := by
    constructor
    · rintro ⟨source, h⟩
      obtain ⟨histories, hreleases, -⟩ := load_eq_ok_iff.1 h
      obtain ⟨found, hfound, -⟩ := ofReleases_eq_ok_iff.1 hreleases
      exact ⟨found, hfound⟩
    · rintro ⟨found, hfound⟩
      exact ⟨_, load_of_ok {} (ofReleases_eq_ok_iff.2 ⟨found, hfound, rfl⟩)⟩
  contributes source after h := by
    obtain ⟨_, hreleases, rfl⟩ := load_eq_ok_iff.1 h
    obtain ⟨found, hfound, rfl⟩ := ofReleases_eq_ok_iff.1 hreleases
    obtain ⟨entries, hentries, hcontributes⟩ := summary_contributes projectKey hfound.length_eq
    exact ⟨found, entries, hfound, hentries, hcontributes⟩
  named _ _ := Component.names_iff.2 rfl
  error_iff e after := by
    rw [← ofReleases_eq_error_iff]
    constructor
    · exact fun ⟨source, h⟩ ↦ (load_eq_error h).1
    · intro hreleases
      obtain ⟨histories, hload⟩ := load_of_error projectKey {} hreleases
      exact ⟨_, hload⟩
  contribute_null _ _ _ h := (load_eq_error h).2

end CommitSource

end ReleaseAudit
