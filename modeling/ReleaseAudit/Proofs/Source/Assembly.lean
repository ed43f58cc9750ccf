import Mathlib.Data.List.Nodup
import ReleaseAudit.Proofs.Dict
import ReleaseAudit.Proofs.History.Access
import ReleaseAudit.Source

/-!
# How an environment is put together

A name of an environment has one owner: every environment has some names, each data source has one,
and so has each further value. An environment comes about when the sources load one after the other and
no two owners have the same name. Otherwise it ends with the first owner that does not load or whose
name is taken, and nothing behind this one is loaded.
-/

namespace ReleaseAudit

open Access (InTurn)

namespace Environment

variable {env env' : Environment} {entries values : List (String × Value)} {name : String}
  {value : Value} {c : Collision}

/-! ## Names and values -/

/-- The environment has these entries, in the order of their names, and no others. -/
structure Holds (env : Environment) (entries : List (String × Value)) : Prop where
  perm : env.entries.Perm entries
  sorted : env.entries.Sorted

theorem exists_holds (h : (entries.map Prod.fst).Nodup) : ∃ env : Environment, env.Holds entries :=
  ⟨⟨Dict.ofList entries⟩, Dict.perm_ofList h, Dict.sorted_ofList entries⟩

namespace Holds

theorem names_perm (h : env.Holds entries) : env.names.Perm (entries.map Prod.fst) :=
  h.perm.map Prod.fst

theorem nodup (h : env.Holds entries) : (entries.map Prod.fst).Nodup :=
  h.names_perm.nodup_iff.1 h.sorted.nodup_keys

theorem contains_iff (h : env.Holds entries) : env.contains name ↔ name ∈ entries.map Prod.fst := by
  rw [contains, Dict.contains_iff]
  exact h.names_perm.mem_iff

theorem get?_eq_some_iff (h : env.Holds entries) :
    env.get? name = some value ↔ (name, value) ∈ entries := by
  rw [get?, h.sorted.get?_eq_some_iff]
  exact h.perm.mem_iff

theorem unique (h : env.Holds entries) (h' : env'.Holds entries) : env = env' :=
  congrArg Environment.mk (h.sorted.eq_of_perm h'.sorted (h.perm.trans h'.perm.symm))

theorem notMem (h : env.Holds (entries ++ (name, value) :: values)) :
    name ∉ entries.map Prod.fst := by
  have hnodup := h.nodup
  rw [List.map_append, List.map_cons] at hnodup
  exact fun hmem ↦ (List.nodup_middle.1 hnodup).notMem (List.mem_append_left _ hmem)

variable (h : env.Holds entries)
include h

/-- A new name is added. -/
theorem exists_insert (value : Value) (hname : name ∉ entries.map Prod.fst) :
    ∃ env', env.insert name value = .ok env' ∧ env'.Holds (entries ++ [(name, value)]) := by
  have hkeys : name ∉ env.entries.keys := mt h.names_perm.mem_iff.1 hname
  refine ⟨⟨env.entries.insert name value⟩, if_neg (mt h.contains_iff.1 hname), ?_, h.sorted.insert⟩
  calc
    env.entries.insert name value |>.Perm ((name, value) :: env.entries) := Dict.perm_insert hkeys
    _ |>.Perm ((name, value) :: entries) := h.perm.cons _
    _ |>.Perm (entries ++ [(name, value)]) := (List.perm_append_singleton _ _).symm

end Holds

/-! ## Owners -/

variable {σ : Type} {old new : Release} {source : DataSource σ} {sources : List (DataSource σ)}
  {state after : σ} {loaded : List Value} {e : EnvironmentError}

/-- A further value, as a source that always loads. -/
def ownerOf (entry : String × Value) : DataSource σ where
  name := entry.1
  load _ _ := pure entry.2

/-- What adds a name to an environment: the sources, and then the further values. -/
def owners (sources : List (DataSource σ)) (values : List (String × Value)) : List (DataSource σ) :=
  sources ++ values.map ownerOf

theorem map_name_owners :
    (owners sources values).map DataSource.name = sources.map DataSource.name ++ values.map Prod.fst := by
  rw [owners, List.map_append, List.map_map]
  rfl

theorem addSource_ownerOf (old new : Release) (env : Environment) (entry : String × Value) :
    (addSource old new env (ownerOf entry) : ExceptT EnvironmentError (StateM σ) Environment) =
      match env.insert entry.1 entry.2 with
      | .ok env => pure env
      | .error c => throw (.collision c) := by
  funext state
  by_cases hname : env.contains entry.1
  · have hinsert : env.insert entry.1 entry.2 = .error ⟨entry.1⟩ := if_pos hname
    rw [addSource, ownerOf, if_pos hname, hinsert]
    rfl
  · rw [addSource, ownerOf, if_neg hname]
    dsimp only [pure, ExceptT.pure, ExceptT.mk, StateT.pure]
    cases env.insert entry.1 entry.2 with
    | ok env => rfl
    | error c => rfl

theorem build_eq_foldlM (old new : Release) (sources : List (DataSource σ))
    (values : List (String × Value)) :
    build old new sources values =
      (owners sources values).foldlM (addSource old new) (ofReleases old new) := by
  rw [build, owners, List.foldlM_append]
  apply bind_congr
  intro env
  induction values generalizing env with
  | nil => rfl
  | cons first values ih =>
    rw [List.map_cons, List.foldlM_cons, addSource_ownerOf, insertAll]
    cases env.insert first.1 first.2 with
    | ok env => exact ih env
    | error c => rfl

/-- An owner has a name that is taken, and is not loaded, or it does not load. -/
inductive Offends (old new : Release) (taken : List String) (owner : DataSource σ) (state : σ) :
    EnvironmentError → σ → Prop
  | collision : owner.name ∈ taken →
      Offends old new taken owner state (.collision ⟨owner.name⟩) state
  | load {cause : SourceError} {after : σ} : owner.name ∉ taken →
      owner.load old new state = (.error cause, after) →
      Offends old new taken owner state (.source owner.name cause) after

/-- The owners in front of one that offends load one after the other, and have names of their own. -/
inductive FirstOffence (old new : Release) (taken : List String) (owners : List (DataSource σ))
    (state : σ) (e : EnvironmentError) (after : σ) : Prop
  | intro {front back : List (DataSource σ)} {owner : DataSource σ} {loaded : List Value} {mid : σ} :
      owners = front ++ owner :: back → InTurn (·.load old new) front state loaded mid →
      (taken ++ front.map DataSource.name).Nodup →
      Offends old new (taken ++ front.map DataSource.name) owner mid e after →
      FirstOffence old new taken owners state e after

theorem firstOffence_cons_iff {taken : List String} (htaken : taken.Nodup) :
    FirstOffence old new taken (source :: sources) state e after ↔
      Offends old new taken source state e after ∨
        source.name ∉ taken ∧ ∃ value mid, source.load old new state = (.ok value, mid) ∧
          FirstOffence old new (taken ++ [source.name]) sources mid e after := by
  constructor
  · rintro ⟨happend, hfront, hnodup, hoffends⟩
    cases hfront with
    | nil =>
      cases happend
      rw [List.map_nil, List.append_nil] at hoffends
      exact .inl hoffends
    | cons hload hfront =>
      cases happend
      have hname : source.name ∉ taken := fun hmem ↦
        (List.nodup_middle.1 hnodup).notMem (List.mem_append_left _ hmem)
      rw [List.map_cons, List.append_cons] at hnodup hoffends
      exact .inr ⟨hname, _, _, hload, rfl, hfront, hnodup, hoffends⟩
  · rintro (hoffends | ⟨hname, value, mid, hload, happend, hfront, hnodup, hoffends⟩)
    · rw [← List.append_nil taken] at htaken hoffends
      exact ⟨rfl, .nil, htaken, hoffends⟩
    · rw [← List.append_cons] at hnodup hoffends
      exact ⟨congrArg _ happend, .cons hload hfront, hnodup, hoffends⟩

namespace Holds

variable (h : env.Holds entries)
include h

theorem addSource_of_mem (hname : source.name ∈ entries.map Prod.fst) :
    addSource old new env source state = (.error (.collision ⟨source.name⟩), state) :=
  if_pos (h.contains_iff.2 hname)

theorem addSource_of_error {cause : SourceError} (hname : source.name ∉ entries.map Prod.fst)
    (hload : source.load old new state = (.error cause, after)) :
    addSource old new env source state = (.error (.source source.name cause), after) := by
  rw [addSource, if_neg (mt h.contains_iff.1 hname), hload]

theorem addSource_of_ok (hname : source.name ∉ entries.map Prod.fst)
    (hload : source.load old new state = (.ok value, after)) :
    ∃ next, addSource old new env source state = (.ok next, after) ∧
      next.Holds (entries ++ [(source.name, value)]) := by
  obtain ⟨next, hinsert, hnext⟩ := h.exists_insert value hname
  refine ⟨next, ?_, hnext⟩
  rw [addSource, if_neg (mt h.contains_iff.1 hname), hload]
  simp only [hinsert]

/-- A source offends, or it adds its entry. -/
theorem addSource_cases (old new : Release) (source : DataSource σ) (state : σ) :
    (∃ e after, Offends old new (entries.map Prod.fst) source state e after ∧
        addSource old new env source state = (.error e, after)) ∨
      ∃ value next after, source.load old new state = (.ok value, after) ∧
        next.Holds (entries ++ [(source.name, value)]) ∧
        addSource old new env source state = (.ok next, after) := by
  by_cases hname : source.name ∈ entries.map Prod.fst
  · exact .inl ⟨_, _, .collision hname, h.addSource_of_mem hname⟩
  · rcases hload : source.load old new state with ⟨cause | value, after⟩
    · exact .inl ⟨_, _, .load hname hload, h.addSource_of_error hname hload⟩
    · obtain ⟨next, hadd, hnext⟩ := h.addSource_of_ok hname hload
      exact .inr ⟨value, next, after, rfl, hnext, hadd⟩

theorem addSource_eq_ok_iff :
    addSource old new env source state = (.ok env', after) ↔
      ∃ value, source.load old new state = (.ok value, after) ∧
        env'.Holds (entries ++ [(source.name, value)]) := by
  constructor
  · intro hadd
    rcases h.addSource_cases old new source state with
      ⟨e, mid, -, heq⟩ | ⟨value, next, mid, hload, hnext, heq⟩
    · cases congrArg Prod.fst (heq.symm.trans hadd)
    · cases heq.symm.trans hadd
      exact ⟨value, hload, hnext⟩
  · rintro ⟨value, hload, h'⟩
    obtain ⟨next, heq, hnext⟩ := h.addSource_of_ok h'.notMem hload
    rw [heq, hnext.unique h']

theorem addSource_eq_error_iff :
    addSource old new env source state = (.error e, after) ↔
      Offends old new (entries.map Prod.fst) source state e after := by
  constructor
  · intro hadd
    rcases h.addSource_cases old new source state with
      ⟨e, mid, hoffends, heq⟩ | ⟨value, next, mid, -, -, heq⟩
    · cases heq.symm.trans hadd
      exact hoffends
    · cases congrArg Prod.fst (heq.symm.trans hadd)
  · rintro (hname | ⟨hname, hload⟩)
    · exact h.addSource_of_mem hname
    · exact h.addSource_of_error hname hload

/-- A run adds one entry for each source. -/
theorem foldlM_eq_ok_iff :
    sources.foldlM (addSource old new) env state = (.ok env', after) ↔
      ∃ loaded, InTurn (·.load old new) sources state loaded after ∧
        env'.Holds (entries ++ (sources.map DataSource.name).zip loaded) := by
  induction sources generalizing env entries state with
  | nil =>
    rw [List.foldlM_nil]
    constructor
    · rintro ⟨⟩
      exact ⟨[], .nil, by simpa using h⟩
    · rintro ⟨_, ⟨⟩, h'⟩
      rw [h.unique (by simpa using h')]
      rfl
  | cons source sources ih =>
    rw [List.foldlM_cons, Access.bind_eq_ok_iff]
    constructor
    · rintro ⟨next, mid, hadd, hrest⟩
      obtain ⟨value, hload, hnext⟩ := h.addSource_eq_ok_iff.1 hadd
      obtain ⟨loaded, hloaded, h'⟩ := (ih hnext).1 hrest
      exact ⟨value :: loaded, .cons hload hloaded, by simpa using h'⟩
    · rintro ⟨_, hloaded, h'⟩
      cases hloaded with
      | cons hload hloaded =>
        obtain ⟨next, hadd, hnext⟩ := h.addSource_of_ok h'.notMem hload
        refine ⟨next, _, hadd, (ih hnext).2 ⟨_, hloaded, ?_⟩⟩
        simpa using h'

theorem foldlM_eq_error_iff :
    sources.foldlM (addSource old new) env state = (.error e, after) ↔
      FirstOffence old new (entries.map Prod.fst) sources state e after := by
  induction sources generalizing env entries state with
  | nil =>
    rw [List.foldlM_nil]
    constructor
    · intro hpure
      cases congrArg Prod.fst hpure
    · rintro ⟨happend, -⟩
      simp at happend
  | cons source sources ih =>
    have hrest {next : Environment} {value : Value} {mid : σ}
        (hnext : next.Holds (entries ++ [(source.name, value)])) :
        sources.foldlM (addSource old new) next mid = (.error e, after) ↔
          FirstOffence old new (entries.map Prod.fst ++ [source.name]) sources mid e after := by
      rw [ih hnext, List.map_append]
      rfl
    rw [List.foldlM_cons, Access.bind_eq_error_iff, firstOffence_cons_iff h.nodup,
      h.addSource_eq_error_iff]
    apply or_congr_right
    constructor
    · rintro ⟨next, mid, hadd, hfails⟩
      obtain ⟨value, hload, hnext⟩ := h.addSource_eq_ok_iff.1 hadd
      exact ⟨hnext.notMem, value, mid, hload, (hrest hnext).1 hfails⟩
    · rintro ⟨hname, value, mid, hload, hfails⟩
      obtain ⟨next, hadd, hnext⟩ := h.addSource_of_ok hname hload
      exact ⟨next, mid, hadd, (hrest hnext).2 hfails⟩

end Holds

/-! ## The whole environment -/

/-- The entries that every environment has. -/
def given (old new : Release) : List (String × Value) :=
  [("releases", .map (Dict.ofList [("old", old.toValue), ("new", new.toValue)])),
    ("println", .function .println), ("split", .function .split)]

theorem map_given (old new : Release) :
    (given old new).map Prod.fst = ["releases", "println", "split"] :=
  rfl

theorem nodup_given (old new : Release) : ((given old new).map Prod.fst).Nodup := by
  rw [map_given]
  decide

theorem ofReleases_holds (old new : Release) : (ofReleases old new).Holds (given old new) :=
  ⟨Dict.perm_ofList (nodup_given old new), Dict.sorted_ofList _⟩

theorem inTurn_ownerOf_iff :
    InTurn (·.load old new) (values.map ownerOf) state loaded after ↔
      loaded = values.map Prod.snd ∧ after = state := by
  induction values generalizing loaded with
  | nil => exact Access.inTurn_nil_iff
  | cons first values ih =>
    rw [List.map_cons, Access.inTurn_cons_iff]
    constructor
    · rintro ⟨_, _, rest, ⟨⟩, hrest, rfl⟩
      obtain ⟨rfl, rfl⟩ := ih.1 hrest
      exact ⟨rfl, rfl⟩
    · rintro ⟨rfl, rfl⟩
      exact ⟨first.2, after, values.map Prod.snd, rfl, ih.2 ⟨rfl, rfl⟩, rfl⟩

theorem inTurn_owners_iff :
    InTurn (·.load old new) (owners sources values) state loaded after ↔
      ∃ contributed, InTurn (·.load old new) sources state contributed after ∧
        loaded = contributed ++ values.map Prod.snd := by
  rw [owners, Access.inTurn_append_iff]
  constructor
  · rintro ⟨contributed, mid, rest, hsources, hvalues, rfl⟩
    obtain ⟨rfl, rfl⟩ := inTurn_ownerOf_iff.1 hvalues
    exact ⟨contributed, hsources, rfl⟩
  · rintro ⟨contributed, hsources, rfl⟩
    exact ⟨contributed, after, _, hsources, inTurn_ownerOf_iff.2 ⟨rfl, rfl⟩, rfl⟩

theorem zip_owners (h : sources.length = loaded.length) :
    ((owners sources values).map DataSource.name).zip (loaded ++ values.map Prod.snd) =
      (sources.map DataSource.name).zip loaded ++ values := by
  rw [map_name_owners, List.zip_append (by rwa [List.length_map]), List.zip_map']
  exact congrArg _ (List.map_id values)

theorem build_eq_ok_iff :
    build old new sources values state = (.ok env, after) ↔
      ∃ loaded, InTurn (·.load old new) sources state loaded after ∧
        env.Holds (given old new ++ (sources.map DataSource.name).zip loaded ++ values) := by
  rw [build_eq_foldlM, (ofReleases_holds old new).foldlM_eq_ok_iff]
  constructor
  · rintro ⟨_, howners, henv⟩
    obtain ⟨loaded, hsources, rfl⟩ := inTurn_owners_iff.1 howners
    rw [zip_owners hsources.length_eq, ← List.append_assoc] at henv
    exact ⟨loaded, hsources, henv⟩
  · rintro ⟨loaded, hsources, henv⟩
    refine ⟨_, inTurn_owners_iff.2 ⟨loaded, hsources, rfl⟩, ?_⟩
    rw [zip_owners hsources.length_eq, ← List.append_assoc]
    exact henv

theorem build_eq_error_iff :
    build old new sources values state = (.error e, after) ↔
      FirstOffence old new ["releases", "println", "split"] (owners sources values) state e after := by
  rw [build_eq_foldlM, (ofReleases_holds old new).foldlM_eq_error_iff, map_given]

theorem map_entries (old new : Release) (h : sources.length = loaded.length) :
    (given old new ++ (sources.map DataSource.name).zip loaded ++ values).map Prod.fst =
      ["releases", "println", "split"] ++ sources.map DataSource.name ++ values.map Prod.fst := by
  have hlength : (sources.map DataSource.name).length ≤ loaded.length := by
    rw [List.length_map]
    exact Nat.le_of_eq h
  rw [List.map_append, List.map_append, map_given, List.map_fst_zip hlength]

theorem exists_build_eq_ok_iff :
    (∃ env after, build old new sources values state = (.ok env, after)) ↔
      (∃ loaded after, InTurn (·.load old new) sources state loaded after) ∧
        (["releases", "println", "split"] ++ sources.map DataSource.name ++
          values.map Prod.fst).Nodup := by
  constructor
  · rintro ⟨env, after, hbuild⟩
    obtain ⟨loaded, hsources, henv⟩ := build_eq_ok_iff.1 hbuild
    have hnodup := henv.nodup
    rw [map_entries old new hsources.length_eq] at hnodup
    exact ⟨⟨loaded, after, hsources⟩, hnodup⟩
  · rintro ⟨⟨loaded, after, hsources⟩, hnodup⟩
    rw [← map_entries old new hsources.length_eq] at hnodup
    obtain ⟨env, henv⟩ := exists_holds hnodup
    exact ⟨env, after, build_eq_ok_iff.2 ⟨loaded, hsources, henv⟩⟩

/-- How `build` puts an environment together: it needs all sources to load and all names to differ, and
it ends in the state that the sources loaded so far leave. -/
structure Assembles (old new : Release) (sources : List (DataSource σ)) (values : List (String × Value))
    (state : σ) : Prop where
  succeeds_iff : (∃ env after, build old new sources values state = (.ok env, after)) ↔
    (∃ loaded after, InTurn (·.load old new) sources state loaded after) ∧
      (["releases", "println", "split"] ++ sources.map DataSource.name ++ values.map Prod.fst).Nodup
  ok_iff : ∀ env after, build old new sources values state = (.ok env, after) ↔
    ∃ loaded, InTurn (·.load old new) sources state loaded after ∧
      env.Holds (given old new ++ (sources.map DataSource.name).zip loaded ++ values)
  error_iff : ∀ e after, build old new sources values state = (.error e, after) ↔
    FirstOffence old new ["releases", "println", "split"] (owners sources values) state e after

theorem build_assembles (old new : Release) (sources : List (DataSource σ))
    (values : List (String × Value)) (state : σ) : Assembles old new sources values state where
  succeeds_iff := exists_build_eq_ok_iff
  ok_iff _ _ := build_eq_ok_iff
  error_iff _ _ := build_eq_error_iff

end Environment

end ReleaseAudit
