import ReleaseAudit.Proofs.Config.Layers

/-!
# Broken settings at home

A settings file of the home directory that cannot be read says nothing. The search for the nearest settings
file may still come to it, and loading fails for its sake where it does.
-/

namespace ReleaseAudit

open FileTree (pathOf)

variable {t t' : FileTree} {path path' start dir : String} {g l : Location} {bytes : ByteArray}
  {s : Settings} {e : LoadError} {home : Option String}

namespace Settings

/-- The message about a file has the path that it was loaded from. -/
theorem load_eq_error (h : load t path = .error e) :
    (∃ cause, e = .unreadable .config path cause) ∨ ∃ cause, e = .malformed .config path cause := by
  rw [load, FileTree.load] at h
  cases htext : t.readText path with
  | error cause =>
    rw [htext] at h
    exact .inl ⟨cause, (Except.error.inj h).symm⟩
  | ok text =>
    rw [htext] at h
    dsimp only at h
    cases htoml : ofToml text with
    | error cause =>
      rw [htoml] at h
      exact .inr ⟨cause, (Except.error.inj h).symm⟩
    | ok s =>
      rw [htoml] at h
      cases h

theorem eq_of_load_eq_error (h : load t path = .error e) (h' : load t' path' = .error e) :
    path = path' := by
  rcases load_eq_error h with ⟨cause, rfl⟩ | ⟨cause, rfl⟩
  · rcases load_eq_error h' with ⟨cause', hcause⟩ | ⟨cause', hcause⟩ <;> cases hcause
    rfl
  · rcases load_eq_error h' with ⟨cause', hcause⟩ | ⟨cause', hcause⟩ <;> cases hcause
    rfl

theorem load_remove (hg : t.node? g = some (.file bytes)) (hpath : (t.remove g).isFile path) :
    load (t.remove g) path = load t path := by
  obtain ⟨l, bytes', hremoved⟩ := FileTree.isFile_iff.1 hpath
  obtain ⟨hfind, -⟩ := (FileTree.find_remove hg).1 hremoved
  rw [load, load, FileTree.load, FileTree.load, readText_of_find hremoved, readText_of_find hfind]

end Settings

namespace Config

variable {c : Config}

/-- The search for a settings file, from where a path leads to, comes to the file at `g`. -/
def ComesTo (t : FileTree) (start : String) (g : Location) : Prop :=
  ∃ path, Search t ((t.canonical? start).getD start) (some path) ∧ t.locate path = .ok g

theorem comesTo_iff : ComesTo t start g ↔ ∃ path, nearest? t start = some path ∧ t.locate path = .ok g := by
  simp only [ComesTo, search_iff]
  rfl

theorem comesTo_iff_nearest (hl : FileTree.IsProper l) (hstart : t.locate start = .ok l) :
    ComesTo t start g ↔ Nearest t l g := by
  rw [comesTo_iff]
  constructor
  · rintro ⟨path, hpath, hlocate⟩
    obtain ⟨file, hnearest, rfl⟩ := (nearest?_eq_some_iff hl hstart).1 hpath
    obtain ⟨bytes, -, hfind⟩ := hnearest.find hl
    rw [(FileTree.find_eq_ok_iff.1 hfind).1] at hlocate
    exact Except.ok.inj hlocate ▸ hnearest
  · intro hnearest
    obtain ⟨bytes, -, hfind⟩ := hnearest.find hl
    refine ⟨pathOf g, (nearest?_eq_some_iff hl hstart).2 ⟨g, hnearest, rfl⟩, ?_⟩
    exact (FileTree.find_eq_ok_iff.1 hfind).1

theorem isFile_of_nearest? (h : nearest? t start = some path) : t.isFile path := List.find?_some h

theorem exists_of_load_eq_error (h : load t home start = .error e) :
    ∃ path, nearest? t start = some path ∧ Settings.load t path = .error e := by
  cases hnearest : nearest? t start with
  | none =>
    rw [load_of_none hnearest] at h
    cases h
  | some path =>
    rw [load_of_nearest? hnearest] at h
    cases hload : Settings.load t path with
    | ok s =>
      rw [hload] at h
      cases h
    | error cause =>
      rw [hload] at h
      obtain rfl : cause = e := Except.error.inj h
      exact ⟨path, rfl, hload⟩

/-! ## Without the file -/

theorem nearest?_remove (hg : t.node? g = some (.file bytes)) (hstart : ¬ t.isFile start)
    (h : ¬ ComesTo t start g) : nearest? (t.remove g) start = nearest? t start := by
  have hfound (path : String) (hpath : nearest? t start = some path) : (t.remove g).isFile path :=
    (FileTree.isFile_remove hg).2
      ⟨isFile_of_nearest? hpath, fun hlocate ↦ h (comesTo_iff.2 ⟨path, hpath, hlocate⟩)⟩
  have hmissed {path : String} (hpath : ¬ t.isFile path) : ¬ (t.remove g).isFile path :=
    mt (fun hfile ↦ ((FileTree.isFile_remove hg).1 hfile).1) hpath
  rw [nearest?] at hfound
  rw [nearest?, nearest?, FileTree.canonical?_remove hg hstart]
  generalize (Path.upward ((t.canonical? start).getD start)).flatMap candidates = paths at hfound ⊢
  cases hpaths : paths.find? t.isFile with
  | none => exact List.find?_eq_none.2 fun path hpath ↦ hmissed (List.find?_eq_none.1 hpaths path hpath)
  | some path =>
    obtain ⟨-, before, after, rfl, hbefore⟩ := List.find?_eq_some_iff_append.1 hpaths
    refine List.find?_eq_some_iff_append.2 ⟨hfound path hpaths, before, after, rfl, fun other hother ↦ ?_⟩
    simpa using hmissed (by simpa using hbefore other hother)

theorem atHome_remove (hg : t.find (Path.join dir ".relgaterc") = .ok (g, .file bytes))
    (hbroken : Settings.ofBytes? bytes = none) : atHome (t.remove g) (some dir) = atHome t (some dir) := by
  obtain ⟨hlocate, hnode⟩ := FileTree.find_eq_ok_iff.1 hg
  rw [atHome_of_said hg, hbroken, atHome_of_absent]
  · rfl
  · exact fun hfile ↦ ((FileTree.isFile_remove hnode).1 hfile).2 hlocate

theorem exists_load_eq_error (home : Option String) (hg : t.node? g = some (.file bytes))
    (hbroken : Settings.ofBytes? bytes = none) (h : ComesTo t start g) :
    ∃ e path, load t home start = .error e ∧ Settings.load t path = .error e ∧
      t.locate path = .ok g := by
  obtain ⟨path, hnearest, hlocate⟩ := comesTo_iff.1 h
  have hfind : t.find path = .ok (g, .file bytes) := FileTree.find_eq_ok_iff.2 ⟨hlocate, hg⟩
  obtain ⟨e, he⟩ := (Settings.load_eq_error_iff hfind).2 hbroken
  refine ⟨e, path, ?_, he, hlocate⟩
  rw [load_of_nearest? hnearest, he]
  rfl

theorem load_remove (hg : t.find (Path.join dir ".relgaterc") = .ok (g, .file bytes))
    (hbroken : Settings.ofBytes? bytes = none) (hstart : ¬ t.isFile start) (h : ¬ ComesTo t start g) :
    load (t.remove g) (some dir) start = load t (some dir) start := by
  have hnode := (FileTree.find_eq_ok_iff.1 hg).2
  have hnearest := nearest?_remove hnode hstart h
  have hhome := atHome_remove hg hbroken
  cases hpath : nearest? t start with
  | none => rw [load_of_none (hnearest.trans hpath), load_of_none hpath, hhome]
  | some path =>
    have hremoved := hnearest.trans hpath
    rw [load_of_nearest? hremoved, load_of_nearest? hpath, hhome,
      Settings.load_remove hnode (isFile_of_nearest? hremoved)]

/-- A file at home that cannot be read counts for nothing, exactly where the search does not come to it.
Where it does, loading fails. From a place that exists it comes to the file when this is the nearest. -/
theorem load_broken_home (hg : t.find (Path.join dir ".relgaterc") = .ok (g, .file bytes))
    (hbroken : Settings.ofBytes? bytes = none) (hstart : ¬ t.isFile start) :
    (load (t.remove g) (some dir) start = load t (some dir) start ↔ ¬ ComesTo t start g) ∧
    (ComesTo t start g → ∃ e, load t (some dir) start = .error e) ∧
    ∀ l, t.locate start = .ok l →
      (¬ Path.isAbsolute start → t.locate (pathOf t.current) = .ok t.current) →
      (ComesTo t start g ↔ Nearest t l g) := by
  have hnode := (FileTree.find_eq_ok_iff.1 hg).2
  refine ⟨⟨fun hsame hcomes ↦ ?_, load_remove hg hbroken hstart⟩, fun hcomes ↦ ?_,
    fun l hl hcurrent ↦ ?_⟩
  · -- the message about the file names a path that leads to no file without it
    obtain ⟨e, path, hload, he, hlocate⟩ := exists_load_eq_error (some dir) hnode hbroken hcomes
    obtain ⟨path', hnearest, he'⟩ := exists_of_load_eq_error (hsame.trans hload)
    obtain rfl := Settings.eq_of_load_eq_error he he'
    exact ((FileTree.isFile_remove hnode).1 (isFile_of_nearest? hnearest)).2 hlocate
  · obtain ⟨e, -, hload, -⟩ := exists_load_eq_error (some dir) hnode hbroken hcomes
    exact ⟨e, hload⟩
  · apply comesTo_iff_nearest _ hl
    exact (FileTree.reached_of_locate (fun h ↦ FileTree.reached_current (hcurrent h)) hl).isProper

/-- The home directory has a file that stops in front of a value, and nothing else has settings. -/
def unfinishedHome : FileTree where
  nodes := [(["home"], .directory), (["home", ".relgaterc"], .file "project_key = ".toUTF8),
    (["home", "project"], .directory), (["work"], .directory)]
  current := []

theorem find_unfinishedHome : unfinishedHome.find (Path.join "/home" ".relgaterc") =
    .ok (["home", ".relgaterc"], .file "project_key = ".toUTF8) := by
  with_unfolding_all rfl

theorem load_broken_home_unfinished :
    Settings.ofBytes? "project_key = ".toUTF8 = none ∧ ¬ unfinishedHome.isFile "/home/project" ∧
    load (unfinishedHome.remove ["home", ".relgaterc"]) (some "/home") "/home/project" ≠
      load unfinishedHome (some "/home") "/home/project" ∧
    Nearest unfinishedHome ["home", "project"] ["home", ".relgaterc"] := by
  have hbroken : Settings.ofBytes? "project_key = ".toUTF8 = none := by decide +kernel
  have hstart : ¬ unfinishedHome.isFile "/home/project" := by decide +kernel
  have hlocate : unfinishedHome.locate "/home/project" = .ok ["home", "project"] := by decide +kernel
  have hdiffer : load (unfinishedHome.remove ["home", ".relgaterc"]) (some "/home") "/home/project" ≠
      load unfinishedHome (some "/home") "/home/project" := by decide +kernel
  obtain ⟨hsame, -, hnearest⟩ := load_broken_home find_unfinishedHome hbroken hstart
  have hcomes : ComesTo unfinishedHome "/home/project" ["home", ".relgaterc"] :=
    not_not.1 (mt hsame.2 hdiffer)
  exact ⟨hbroken, hstart, hdiffer, (hnearest _ hlocate (fun h ↦ absurd rfl h)).1 hcomes⟩

/-- Loading fails below such a home directory, and does not without its file. -/
theorem load_broken_home_project :
    load unfinishedHome (some "/home") "/home/project" =
      .error (.malformed .config "/home/.relgaterc" ⟨.toml⟩) ∧
    load (unfinishedHome.remove ["home", ".relgaterc"]) (some "/home") "/home/project" = .ok {} := by
  constructor <;> decide +kernel

end Config

end ReleaseAudit
