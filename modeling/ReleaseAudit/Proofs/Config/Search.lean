import ReleaseAudit.Config
import ReleaseAudit.Proofs.FileTree

/-!
# The nearest settings file

The search for a settings file goes up from a directory until it finds one or is at the end of the path.
It always comes to an end, and from the path of a location it finds the file that is nearest to it.
-/

namespace ReleaseAudit.Config

open FileTree (IsName IsProper pathOf)

variable {t : FileTree} {dir file : String} {found found' : Option String} {d l g : Location} {name : String}

/-! ## Going up -/

/-- What a directory has for settings: the first of its candidates that is a regular file. -/
def own? (t : FileTree) (dir : String) : Option String := (candidates dir).find? t.isFile

/-- The search from a directory on. It ends at a file, or where nothing is left to go up to. -/
inductive Search (t : FileTree) : String → Option String → Prop
  | here {dir file : String} : own? t dir = some file → Search t dir (some file)
  | up {dir outer : String} {found : Option String} : own? t dir = none →
      Path.parent? dir = some outer → Search t outer found → Search t dir found
  | ends {dir : String} : own? t dir = none → Path.parent? dir = none → Search t dir none

/-- What the search comes to. -/
def searched (t : FileTree) (dir : String) : Option String :=
  ((Path.upward dir).flatMap candidates).find? t.isFile

theorem searched_eq (t : FileTree) (dir : String) :
    searched t dir = (own? t dir).or ((Path.parent? dir).bind (searched t)) := by
  rw [searched, Path.upward_eq, List.flatMap_cons, List.find?_append]
  cases Path.parent? dir <;> rfl

theorem search_iff : Search t dir found ↔ searched t dir = found := by
  induction dir using Path.upward_induction generalizing found with
  | step dir ih =>
    rw [searched_eq]
    constructor
    · intro h
      cases h with
      | here hown => rw [hown, Option.some_or]
      | up hown houter hsearch =>
        rw [hown, houter, Option.none_or, Option.bind_some]
        exact (ih _ houter).1 hsearch
      | ends hown hnone => rw [hown, hnone, Option.none_or, Option.bind_none]
    · intro h
      cases hown : own? t dir with
      | some file =>
        rw [hown, Option.some_or] at h
        exact h ▸ .here hown
      | none =>
        rw [hown, Option.none_or] at h
        cases houter : Path.parent? dir with
        | none =>
          rw [houter, Option.bind_none] at h
          exact h ▸ .ends hown houter
        | some outer =>
          rw [houter, Option.bind_some] at h
          exact .up hown houter ((ih outer houter).2 h)

/-! ## Locations -/

/-- The settings file of a directory. One in it counts before one below it. -/
inductive SettingsIn (t : FileTree) (d : Location) : Location → Prop
  | own : t.HoldsFile (d ++ [".relgaterc"]) → SettingsIn t d (d ++ [".relgaterc"])
  | nested : ¬ t.HoldsFile (d ++ [".relgaterc"]) → t.HoldsFile (d ++ [".relgate", ".relgaterc"]) →
      SettingsIn t d (d ++ [".relgate", ".relgaterc"])

theorem SettingsIn.unique {g' : Location} (h : SettingsIn t d g) (h' : SettingsIn t d g') : g = g' := by
  cases h with
  | own hfile =>
    cases h' with
    | own => rfl
    | nested hnot => exact absurd hfile hnot
  | nested hnot =>
    cases h' with
    | own hfile => exact absurd hfile hnot
    | nested => rfl

/-- The settings file of the innermost directory around a location, or at it, that has one. -/
def Nearest (t : FileTree) (l file : Location) : Prop :=
  ∃ d, d <+: l ∧ SettingsIn t d file ∧
    ∀ d', d' <+: l → d.length < d'.length → ∀ file', ¬ SettingsIn t d' file'

theorem Nearest.unique {g' : Location} (h : Nearest t l g) (h' : Nearest t l g') : g = g' := by
  obtain ⟨d, hd, hsettings, hinner⟩ := h
  obtain ⟨d', hd', hsettings', hinner'⟩ := h'
  have hle : d'.length ≤ d.length := Nat.le_of_not_lt fun hlt ↦ hinner d' hd' hlt g' hsettings'
  have hge : d.length ≤ d'.length := Nat.le_of_not_lt fun hlt ↦ hinner' d hd hlt g hsettings
  have hsame : d = d' :=
    (List.prefix_of_prefix_length_le hd hd' hge).eq_of_length (Nat.le_antisymm hge hle)
  exact hsettings.unique (hsame ▸ hsettings')

theorem nearest_nil_iff : Nearest t [] g ↔ SettingsIn t [] g := by
  constructor
  · rintro ⟨d, hd, hsettings, -⟩
    rwa [List.prefix_nil.1 hd] at hsettings
  · intro hsettings
    refine ⟨[], List.prefix_rfl, hsettings, fun d' hd' hlength ↦ ?_⟩
    rw [List.prefix_nil.1 hd'] at hlength
    exact absurd hlength (Nat.lt_irrefl _)

theorem nearest_concat_iff : Nearest t (l ++ [name]) g ↔
    SettingsIn t (l ++ [name]) g ∨
      (∀ file, ¬ SettingsIn t (l ++ [name]) file) ∧ Nearest t l g := by
  have hlonger {d : Location} (hd : d <+: l) : d.length < (l ++ [name]).length := by
    rw [List.length_append]
    exact Nat.lt_succ_of_le hd.length_le
  constructor
  · rintro ⟨d, hd, hsettings, hinner⟩
    rcases List.prefix_concat_iff.1 hd with rfl | hd
    · exact .inl hsettings
    · refine .inr ⟨hinner _ List.prefix_rfl (hlonger hd), d, hd, hsettings, fun d' hd' ↦ ?_⟩
      exact hinner d' (hd'.trans (List.prefix_append _ _))
  · rintro (hsettings | ⟨hnone, d, hd, hsettings, hinner⟩)
    · refine ⟨_, List.prefix_rfl, hsettings, fun d' hd' hlength ↦ ?_⟩
      exact absurd hd'.length_le (Nat.not_le_of_lt hlength)
    · refine ⟨d, hd.trans (List.prefix_append _ _), hsettings, fun d' hd' hlength ↦ ?_⟩
      rcases List.prefix_concat_iff.1 hd' with rfl | hd'
      · exact hnone
      · exact hinner d' hd' hlength

theorem isName_relgaterc : IsName ".relgaterc" := ⟨by decide, by decide⟩

theorem isName_relgate : IsName ".relgate" := ⟨by decide, by decide⟩

theorem SettingsIn.holdsFile (h : SettingsIn t d g) : t.HoldsFile g := by
  cases h with
  | own hfile => exact hfile
  | nested _ hfile => exact hfile

theorem SettingsIn.isProper (h : SettingsIn t d g) (hd : IsProper d) : IsProper g := by
  cases h with
  | own => exact FileTree.isProper_concat_iff.2 ⟨hd, isName_relgaterc⟩
  | nested =>
    rw [List.append_cons]
    apply FileTree.isProper_concat_iff.2
    exact ⟨FileTree.isProper_concat_iff.2 ⟨hd, isName_relgate⟩, isName_relgaterc⟩

theorem Nearest.find (h : Nearest t l g) (hl : IsProper l) :
    ∃ bytes, t.node? g = some (.file bytes) ∧ t.find (pathOf g) = .ok (g, .file bytes) := by
  obtain ⟨d, hd, hsettings, -⟩ := h
  apply FileTree.find_pathOf_of_holdsFile _ hsettings.holdsFile
  exact hsettings.isProper fun name hname ↦ hl name (hd.subset hname)

theorem candidates_pathOf (h : IsProper d) :
    candidates (pathOf d) = [pathOf (d ++ [".relgaterc"]), pathOf (d ++ [".relgate", ".relgaterc"])] := by
  have hnested : IsProper (d ++ [".relgate"]) := FileTree.isProper_concat_iff.2 ⟨h, isName_relgate⟩
  rw [candidates, fileName, FileTree.join_pathOf h isName_relgaterc, FileTree.join_pathOf h isName_relgate,
    FileTree.join_pathOf hnested isName_relgaterc, List.append_assoc, List.singleton_append]

theorem own?_pathOf_eq_some_iff (h : IsProper d) :
    own? t (pathOf d) = some file ↔ ∃ g, SettingsIn t d g ∧ file = pathOf g := by
  have hnested : IsProper (d ++ [".relgate"]) := FileTree.isProper_concat_iff.2 ⟨h, isName_relgate⟩
  have hown := FileTree.isFile_pathOf_iff (t := t)
    (FileTree.isProper_concat_iff.2 ⟨h, isName_relgaterc⟩)
  have hbelow := FileTree.isFile_pathOf_iff (t := t)
    (FileTree.isProper_concat_iff.2 ⟨hnested, isName_relgaterc⟩)
  rw [List.append_assoc, List.singleton_append] at hbelow
  rw [own?, candidates_pathOf h]
  by_cases hfile : t.HoldsFile (d ++ [".relgaterc"])
  · rw [List.find?_cons_of_pos (hown.2 hfile), Option.some_inj]
    have hsettings : SettingsIn t d (d ++ [".relgaterc"]) := .own hfile
    constructor
    · exact fun heq ↦ ⟨_, hsettings, heq.symm⟩
    · rintro ⟨g, hsettings', rfl⟩
      rw [hsettings.unique hsettings']
  rw [List.find?_cons_of_neg (mt hown.1 hfile)]
  by_cases hfile' : t.HoldsFile (d ++ [".relgate", ".relgaterc"])
  · rw [List.find?_cons_of_pos (hbelow.2 hfile'), Option.some_inj]
    have hsettings : SettingsIn t d (d ++ [".relgate", ".relgaterc"]) := .nested hfile hfile'
    constructor
    · exact fun heq ↦ ⟨_, hsettings, heq.symm⟩
    · rintro ⟨g, hsettings', rfl⟩
      rw [hsettings.unique hsettings']
  · rw [List.find?_cons_of_neg (mt hbelow.1 hfile'), List.find?_nil]
    refine iff_of_false nofun ?_
    rintro ⟨g, hsettings, -⟩
    cases hsettings with
    | own hself => exact hfile hself
    | nested _ hnested => exact hfile' hnested

theorem searched_pathOf_eq_some_iff (h : IsProper l) :
    searched t (pathOf l) = some file ↔ ∃ g, Nearest t l g ∧ file = pathOf g := by
  induction l using List.reverseRecOn with
  | nil =>
    rw [searched_eq, FileTree.parent?_pathOf_nil, Option.bind_none, Option.or_none,
      own?_pathOf_eq_some_iff h]
    simp only [nearest_nil_iff]
  | append_singleton l name ih =>
    rw [searched_eq, FileTree.parent?_pathOf_concat h, Option.bind_some]
    simp only [nearest_concat_iff]
    cases hown : own? t (pathOf (l ++ [name])) with
    | some own =>
      obtain ⟨g, hsettings, rfl⟩ := (own?_pathOf_eq_some_iff h).1 hown
      rw [Option.some_or, Option.some_inj]
      constructor
      · rintro rfl
        exact ⟨g, .inl hsettings, rfl⟩
      · rintro ⟨g', hsettings' | ⟨hnone, -⟩, rfl⟩
        · rw [hsettings.unique hsettings']
        · exact absurd hsettings (hnone g)
    | none =>
      have hnone : ∀ g, ¬ SettingsIn t (l ++ [name]) g := by
        intro g hsettings
        have hsome := (own?_pathOf_eq_some_iff h).2 ⟨g, hsettings, rfl⟩
        rw [hown] at hsome
        cases hsome
      rw [Option.none_or, ih (FileTree.isProper_concat_iff.1 h).1]
      simp only [hnone, not_false_eq_true, implies_true, true_and, false_or]

end ReleaseAudit.Config
