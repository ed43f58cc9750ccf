import ReleaseAudit.Proofs.Config.Search

/-!
# Layers of settings

A setting is that of the nearest settings file, or that of the home directory where the nearest file
leaves it out, or else the default. A home directory whose file cannot be read leaves out everything.
-/

namespace ReleaseAudit

open FileTree (pathOf)

variable {t : FileTree} {path start : String} {l : Location} {bytes : ByteArray} {s near far : Settings}
  {home : Option String}

namespace Settings

/-- What the bytes of a settings file say; nothing when they are no text, or a text that sets nothing. -/
def ofBytes? (bytes : ByteArray) : Option Settings :=
  (String.fromUTF8? bytes).bind fun text ↦ (ofToml text).toOption

theorem readText_of_find (h : t.find path = .ok (l, .file bytes)) :
    t.readText path = (String.fromUTF8? bytes).elim (.error .notText) .ok := by
  have hbytes : t.readBytes path = .ok bytes := by
    rw [FileTree.readBytes, h]
    rfl
  rw [FileTree.readText, hbytes]
  simp only [bind, Except.bind]
  cases String.fromUTF8? bytes <;> rfl

theorem load_eq_ok_iff (h : t.find path = .ok (l, .file bytes)) :
    load t path = .ok s ↔ ofBytes? bytes = some s := by
  rw [load, FileTree.load, readText_of_find h, ofBytes?]
  cases String.fromUTF8? bytes with
  | none => exact iff_of_false nofun nofun
  | some text =>
    rw [Option.elim_some, Option.bind_some]
    cases htoml : ofToml text with
    | error e => simp [htoml, Except.toOption]
    | ok s' => simp [htoml, Except.toOption]

theorem load_eq_error_iff (h : t.find path = .ok (l, .file bytes)) :
    (∃ e, load t path = .error e) ↔ ofBytes? bytes = none := by
  cases hbytes : ofBytes? bytes with
  | some s =>
    rw [(load_eq_ok_iff h).2 hbytes]
    exact iff_of_false nofun nofun
  | none =>
    cases hload : load t path with
    | error e => exact iff_of_true ⟨e, rfl⟩ rfl
    | ok s =>
      rw [(load_eq_ok_iff h).1 hload] at hbytes
      cases hbytes

end Settings

namespace Config

variable {c : Config}

/-- The settings that each layer leaves to the next one. -/
structure Layered (near far : Settings) (c : Config) : Prop where
  projectKey : c.projectKey = (near.projectKey <|> far.projectKey).getD "ZZZ"
  remoteName : c.remoteName = (near.remoteName <|> far.remoteName).getD "origin"
  gitEnabled : c.gitEnabled = (near.gitEnabled <|> far.gitEnabled).getD true
  errorPolicy : c.errorPolicy = (near.errorPolicy <|> far.errorPolicy).getD .abort
  statusRule : c.statusRule = (near.statusRule <|> far.statusRule).getD .zeroIsOk
  commitCacheSize : c.commitCacheSize = (near.commitCacheSize <|> far.commitCacheSize).getD 1024

theorem getD_getD {α : Type} (a b : Option α) (d : α) : a.getD (b.getD d) = (a <|> b).getD d := by
  cases a <;> rfl

theorem layered_iff : Layered near far c ↔ c = (({} : Config).merge far).merge near := by
  constructor
  · rintro ⟨hkey, hremote, hgit, hpolicy, hrule, hsize⟩
    cases c
    simp only at hkey hremote hgit hpolicy hrule hsize
    simp only [merge, getD_getD, ← hkey, ← hremote, ← hgit, ← hpolicy, ← hrule, ← hsize]
  · rintro rfl
    exact ⟨getD_getD .., getD_getD .., getD_getD .., getD_getD .., getD_getD .., getD_getD ..⟩

/-! ## The two layers -/

/-- What the settings file says that is nearest to a location. -/
inductive NearSettings (t : FileTree) (l : Location) : Settings → Prop
  | said {file : Location} {bytes : ByteArray} {s : Settings} : Nearest t l file →
      t.node? file = some (.file bytes) → Settings.ofBytes? bytes = some s → NearSettings t l s
  | absent : (∀ file, ¬ Nearest t l file) → NearSettings t l {}

/-- What the settings file of the home directory says. One that cannot be read says nothing. -/
inductive HomeSettings (t : FileTree) : Option String → Settings → Prop
  | said {dir : String} {l : Location} {bytes : ByteArray} :
      t.find (Path.join dir ".relgaterc") = .ok (l, .file bytes) →
      HomeSettings t (some dir) ((Settings.ofBytes? bytes).getD {})
  | absent {dir : String} : ¬ t.isFile (Path.join dir ".relgaterc") → HomeSettings t (some dir) {}
  | homeless : HomeSettings t none {}

theorem atHome_eq (home : String) : atHome t (some home) =
    if t.isFile (Path.join home ".relgaterc") then
      ((Settings.load t (Path.join home ".relgaterc")).toOption).getD {}
    else {} := by
  simp only [atHome, Option.map_some, fileName]
  cases Settings.load t (Path.join home ".relgaterc") <;> rfl

theorem atHome_of_said {dir : String} (h : t.find (Path.join dir ".relgaterc") = .ok (l, .file bytes)) :
    atHome t (some dir) = (Settings.ofBytes? bytes).getD {} := by
  rw [atHome_eq, if_pos (FileTree.isFile_iff.2 ⟨l, bytes, h⟩)]
  cases hbytes : Settings.ofBytes? bytes with
  | some s => rw [(Settings.load_eq_ok_iff h).2 hbytes]; rfl
  | none =>
    obtain ⟨e, hload⟩ := (Settings.load_eq_error_iff h).2 hbytes
    rw [hload]
    rfl

theorem atHome_of_absent {dir : String} (h : ¬ t.isFile (Path.join dir ".relgaterc")) :
    atHome t (some dir) = {} := by
  rw [atHome_eq, if_neg h]

theorem homeSettings_iff : HomeSettings t home far ↔ far = atHome t home := by
  constructor
  · intro h
    cases h with
    | said hfind => exact (atHome_of_said hfind).symm
    | absent hfile => exact (atHome_of_absent hfile).symm
    | homeless => rfl
  · rintro rfl
    cases home with
    | none => exact .homeless
    | some dir =>
      by_cases hfile : t.isFile (Path.join dir ".relgaterc")
      · obtain ⟨l, bytes, hfind⟩ := FileTree.isFile_iff.1 hfile
        rw [atHome_of_said hfind]
        exact .said hfind
      · rw [atHome_of_absent hfile]
        exact .absent hfile

theorem load_of_nearest? {path : String} (h : nearest? t start = some path) :
    load t home start =
      (Settings.load t path).map (({} : Config).merge (atHome t home)).merge := by
  unfold load
  simp only [h]
  cases Settings.load t path <;> rfl

theorem load_of_none (h : nearest? t start = none) :
    load t home start = .ok (({} : Config).merge (atHome t home)) := by
  unfold load
  simp only [h]
  rfl

/-! ## Loading -/

variable {file : Location}

theorem nearest?_eq_some_iff (hl : FileTree.IsProper l) (hstart : t.locate start = .ok l) :
    nearest? t start = some path ↔ ∃ file, Nearest t l file ∧ path = pathOf file := by
  have hcanonical : t.canonical? start = some (pathOf l) := by rw [FileTree.canonical?, hstart]
  rw [← searched_pathOf_eq_some_iff hl, nearest?, hcanonical, Option.getD_some, searched]

/-- Loading does not fail without a nearest file. -/
theorem load_of_forall_not_nearest (hl : FileTree.IsProper l) (hstart : t.locate start = .ok l)
    (h : ∀ file, ¬ Nearest t l file) :
    load t home start = .ok (({} : Config).merge (atHome t home)) := by
  apply load_of_none
  rw [Option.eq_none_iff_forall_ne_some]
  intro path hpath
  obtain ⟨file, hnearest, -⟩ := (nearest?_eq_some_iff hl hstart).1 hpath
  exact h file hnearest

theorem load_of_nearest (home : Option String) (hl : FileTree.IsProper l)
    (hstart : t.locate start = .ok l) (h : Nearest t l file) : ∃ bytes, t.node? file = some (.file bytes) ∧
      (∀ c, load t home start = .ok c ↔ ∃ s, Settings.ofBytes? bytes = some s ∧
        c = (({} : Config).merge (atHome t home)).merge s) ∧
      ((∃ e, load t home start = .error e) ↔ Settings.ofBytes? bytes = none) := by
  obtain ⟨bytes, hnode, hfind⟩ := h.find hl
  refine ⟨bytes, hnode, ?_⟩
  rw [load_of_nearest? ((nearest?_eq_some_iff hl hstart).2 ⟨file, h, rfl⟩)]
  cases hbytes : Settings.ofBytes? bytes with
  | some s =>
    rw [(Settings.load_eq_ok_iff hfind).2 hbytes]
    simp [Except.map, eq_comm]
  | none =>
    obtain ⟨e, hload⟩ := (Settings.load_eq_error_iff hfind).2 hbytes
    rw [hload]
    simp [Except.map]

theorem load_eq_ok_iff (hl : FileTree.IsProper l) (hstart : t.locate start = .ok l) :
    load t home start = .ok c ↔
      ∃ near far, NearSettings t l near ∧ HomeSettings t home far ∧ Layered near far c := by
  simp only [homeSettings_iff, layered_iff, exists_eq_left, exists_and_left]
  by_cases hfile : ∃ file, Nearest t l file
  · obtain ⟨file, hnearest⟩ := hfile
    obtain ⟨bytes, hnode, hok, -⟩ := load_of_nearest home hl hstart hnearest
    rw [hok]
    constructor
    · rintro ⟨s, hbytes, hc⟩
      exact ⟨s, .said hnearest hnode hbytes, hc⟩
    · rintro ⟨near, hnear, hc⟩
      cases hnear with
      | absent hnone => exact absurd hnearest (hnone file)
      | said hnearest' hnode' hbytes =>
        cases hnearest.unique hnearest'
        cases hnode.symm.trans hnode'
        exact ⟨near, hbytes, hc⟩
  · rw [not_exists] at hfile
    rw [load_of_forall_not_nearest hl hstart hfile, Except.ok.injEq]
    constructor
    · rintro rfl
      exact ⟨{}, .absent hfile, rfl⟩
    · rintro ⟨near, hnear, rfl⟩
      cases hnear with
      | absent => rfl
      | said hnearest => exact absurd hnearest (hfile _)

theorem load_eq_error_iff (hl : FileTree.IsProper l) (hstart : t.locate start = .ok l) :
    (∃ e, load t home start = .error e) ↔ ∃ file bytes, Nearest t l file ∧
      t.node? file = some (.file bytes) ∧ Settings.ofBytes? bytes = none := by
  by_cases hfile : ∃ file, Nearest t l file
  · obtain ⟨file, hnearest⟩ := hfile
    obtain ⟨bytes, hnode, -, herror⟩ := load_of_nearest home hl hstart hnearest
    rw [herror]
    constructor
    · exact fun hbytes ↦ ⟨file, bytes, hnearest, hnode, hbytes⟩
    · rintro ⟨file', bytes', hnearest', hnode', hbytes⟩
      cases hnearest.unique hnearest'
      cases hnode.symm.trans hnode'
      exact hbytes
  · rw [not_exists] at hfile
    rw [load_of_forall_not_nearest hl hstart hfile]
    refine iff_of_false nofun ?_
    rintro ⟨file, -, hnearest, -⟩
    exact hfile file hnearest

/-- The settings that apply where a search from a directory starts: every setting is that of the nearest
layer that has it. Loading fails exactly when the nearest file cannot be read, and the search for this
file comes to an end from everywhere. A relative path starts at the working directory, whose own path has
to lead there. -/
theorem load_layered (t : FileTree) (home : Option String)
    (hcurrent : ¬ Path.isAbsolute start → t.locate (pathOf t.current) = .ok t.current)
    (hstart : t.locate start = .ok l) :
    (∀ dir, ∃! found, Search t dir found) ∧
    (∀ path, Search t (pathOf l) (some path) ↔ ∃ file, Nearest t l file ∧ path = pathOf file) ∧
    (∀ c, load t home start = .ok c ↔
      ∃ near far, NearSettings t l near ∧ HomeSettings t home far ∧ Layered near far c) ∧
    ((∃ e, load t home start = .error e) ↔
      ∃ file bytes, Nearest t l file ∧ t.node? file = some (.file bytes) ∧
        Settings.ofBytes? bytes = none) := by
  have hl : FileTree.IsProper l :=
    (FileTree.reached_of_locate (fun h ↦ FileTree.reached_current (hcurrent h)) hstart).isProper
  refine ⟨fun dir ↦ ?_, fun path ↦ ?_, fun c ↦ load_eq_ok_iff hl hstart, load_eq_error_iff hl hstart⟩
  · exact ⟨searched t dir, search_iff.2 rfl, fun found h ↦ (search_iff.1 h).symm⟩
  · rw [search_iff]
    exact searched_pathOf_eq_some_iff hl

/-- A directory between two others that have settings: one around it, and the home directory. -/
def nestedSettings : FileTree where
  nodes := [(["home"], .directory),
    (["home", ".relgaterc"], .file "project_key = \"HOME\"\ncommit_cache_size = 7\n".toUTF8),
    (["work"], .directory), (["work", ".relgate"], .directory),
    (["work", ".relgate", ".relgaterc"], .file "project_key = \"LOC\"\n".toUTF8),
    (["work", "api"], .directory)]
  current := ["work"]

theorem load_layered_nested :
    load nestedSettings (some "/home") "api" = .ok { projectKey := "LOC", commitCacheSize := 7 } ∧
    ∃ near far, NearSettings nestedSettings ["work", "api"] near ∧
      HomeSettings nestedSettings (some "/home") far ∧
      Layered near far { projectKey := "LOC", commitCacheSize := 7 } := by
  have hload : load nestedSettings (some "/home") "api" =
      .ok { projectKey := "LOC", commitCacheSize := 7 } := by decide +kernel
  have hcurrent : nestedSettings.locate (pathOf ["work"]) = .ok ["work"] := by decide +kernel
  have hstart : nestedSettings.locate "api" = .ok ["work", "api"] := by decide +kernel
  obtain ⟨-, -, hlayered, -⟩ := load_layered nestedSettings (some "/home") (fun _ ↦ hcurrent) hstart
  exact ⟨hload, (hlayered _).1 hload⟩

end Config

end ReleaseAudit
