import ReleaseAudit.Proofs.Check.Import

/-!
# The clauses of a run

Which clauses a check file stands for when its imports are put in place, said without a run: a list of
entries, each with the name of a step and the text of one of its clauses. A run that returns results
returns one for each of these, in their order.
-/

namespace ReleaseAudit

/-- A line of a condition that is neither blank nor a comment, given without the blanks around it. -/
def Step.HoldsClause (line : List Char) : Prop :=
  line ≠ [] ∧ ¬ ['#'] <+: line ∧ ¬ ['/', '/'] <+: line

instance : DecidablePred Step.HoldsClause := fun _ ↦ inferInstanceAs (Decidable (_ ∧ _ ∧ _))

/-- The lines of the condition that hold clauses, without the blanks around them. -/
def Step.clauseLines (s : Step) : List String :=
  (((Text.splitBy (· == '\n') s.condition.toList).map Text.trimChars).filter
    (Step.HoldsClause ·)).map String.ofList

/-- What a result is about: the name of a step and the text of a clause. -/
def CheckResult.entry (r : CheckResult) : String × String := (r.name, r.reference)

namespace Run

variable [HostCode]

/-- What is put in place of imports. -/
inductive Part where
  | file (isRoot : Bool) (path : String)
  | step (s : Step)

/-- The steps that a file stands for. There are none when it is missing or skipped, or cannot be read
as an import. -/
inductive Content (env : Environment) (files : CheckFiles) (path : String) :
    (isRoot : Bool) → List Step → Prop
  | missing {isRoot : Bool} : files.name? path = none → Content env files path isRoot []
  | unreadable {e : LoadError} : (files.name? path).isSome → files.load path = .error e →
      Content env files path false []
  | skipped {isRoot : Bool} {tree : CheckTree} : (files.name? path).isSome →
      files.load path = .ok tree → Decides env tree false → Content env files path isRoot []
  | live {isRoot : Bool} {tree : CheckTree} : Live env files path tree →
      Content env files path isRoot tree.steps

/-- The entries that files and steps stand for, one after the other. A file stands for its steps, a
step that imports for the files that it imports, and any other step for the lines of its condition. -/
inductive Expands (env : Environment) (files : CheckFiles) (options : RunOptions) :
    List Part → List (String × String) → Prop
  | nil : Expands env files options [] []
  | file {isRoot : Bool} {path : String} {ss : List Step} {rest : List Part}
      {first more : List (String × String)} :
      Content env files path isRoot ss → Expands env files options (ss.map .step) first →
      Expands env files options rest more →
      Expands env files options (.file isRoot path :: rest) (first ++ more)
  | imports {s : Step} {paths : List String} {rest : List Part}
      {first more : List (String × String)} :
      s.isImport → StandsFor files options s.importPattern paths →
      Expands env files options (paths.map (.file false)) first →
      Expands env files options rest more →
      Expands env files options (.step s :: rest) (first ++ more)
  | checks {s : Step} {rest : List Part} {more : List (String × String)} :
      ¬ s.isImport → Expands env files options rest more →
      Expands env files options (.step s :: rest) (s.clauseLines.map (s.name, ·) ++ more)

end Run

/-! ## Clauses -/

theorem Clause.isComment_iff {text : List Char} :
    isComment text ↔ ['#'] <+: text ∨ ['/', '/'] <+: text := by
  rw [isComment, Bool.or_eq_true, Text.startsWith_iff, Text.startsWith_iff]

theorem Clause.skips_iff {text : List Char} :
    (text.isEmpty || isComment text) ↔ ¬ Step.HoldsClause text := by
  rw [Bool.or_eq_true, isComment_iff, List.isEmpty_iff, Step.HoldsClause]
  grind

theorem Clause.map_text_ofLine? (line : List Char) :
    (ofLine? line).map text =
      if Step.HoldsClause (Text.trimChars line) then some (String.ofList (Text.trimChars line))
      else none := by
  simp only [ofLine?]
  by_cases hholds : Step.HoldsClause (Text.trimChars line)
  · rw [if_pos hholds, if_neg (mt Clause.skips_iff.1 (not_not_intro hholds))]
    cases validation? (Text.trimChars line) <;> rfl
  · rw [if_neg hholds, if_pos (Clause.skips_iff.2 hholds)]
    rfl

theorem Step.map_text_clauses (s : Step) : s.clauses.map Clause.text = s.clauseLines := by
  unfold clauses clauseLines
  induction Text.splitBy (· == '\n') s.condition.toList with
  | nil => rfl
  | cons line lines ih =>
    have hline := Clause.map_text_ofLine? line
    rw [List.filterMap_cons, List.map_cons, List.filter_cons]
    by_cases hholds : HoldsClause (Text.trimChars line)
    · rw [if_pos hholds] at hline
      obtain ⟨c, hc, htext⟩ := Option.map_eq_some_iff.1 hline
      rw [hc, if_pos (decide_eq_true hholds), List.map_cons, List.map_cons, htext, ih]
    · rw [if_neg hholds, Option.map_eq_none_iff] at hline
      rw [hline, if_neg (by simpa using hholds), ih]

namespace Run

variable [HostCode] {env : Environment} {files : CheckFiles} {options : RunOptions}
  {opened : List String} {parts rest : List Part} {entries more : List (String × String)}
  {results : List CheckResult}

theorem entry_of_returns_clause {name : String} {c : Clause} {r : CheckResult}
    (h : Returns (clause env options name c) r) : r.entry = (name, c.text) := by
  obtain ⟨before, after, hrun⟩ := h
  rw [clause_apply] at hrun
  rcases hjudge : judge env options.statusRule c before with ⟨e | ⟨status, comment⟩, mid⟩ <;>
    rw [hjudge] at hrun
  · cases hpolicy : options.errorPolicy <;> simp only [hpolicy] at hrun <;> cases hrun
    rfl
  · cases hrun
    rfl

theorem entries_of_returns_clauses {name : String} {cs : List Clause}
    (h : Returns (clauses env options name cs) results) :
    results.map CheckResult.entry = (cs.map Clause.text).map (name, ·) := by
  induction cs generalizing results with
  | nil =>
    cases returns_pure_iff.1 h
    rfl
  | cons c cs ih =>
    obtain ⟨first, hfirst, hbind⟩ := exists_of_returns_bind h
    obtain ⟨others, hothers, hpure⟩ := exists_of_returns_bind hbind
    cases returns_pure_iff.1 hpure
    rw [List.map_cons, entry_of_returns_clause hfirst, ih hothers]
    rfl

/-! ## A run expands its root -/

theorem expands_step {s : Step}
    (hpaths : s.isImport → ∀ paths results,
      Returns (importAll env files options opened paths) results →
        Expands env files options (paths.map (.file false)) (results.map CheckResult.entry))
    (h : Returns (step env files options opened s) results)
    (hrest : Expands env files options rest more) :
    Expands env files options (.step s :: rest) (results.map CheckResult.entry ++ more) := by
  by_cases himport : s.isImport
  · rw [step, if_pos himport] at h
    obtain ⟨paths, ⟨before, after, hstands⟩, hall⟩ := exists_of_returns_bind h
    exact .imports himport (imported_eq_ok_iff.1 hstands).1 (hpaths himport paths results hall) hrest
  · rw [step, if_neg himport] at h
    rw [entries_of_returns_clauses h, s.map_text_clauses]
    exact .checks himport hrest

theorem expands_file {isRoot : Bool} {path : String}
    (hsteps : ∀ name (tree : CheckTree), files.name? path = some name → name ∉ opened →
      files.load path = .ok tree → ∀ results,
        Returns (steps env files options (name :: opened) tree.steps) results →
          Expands env files options (tree.steps.map .step) (results.map CheckResult.entry))
    (h : Returns (file env files options opened isRoot path) results)
    (hrest : Expands env files options rest more) :
    Expands env files options (.file isRoot path :: rest)
      (results.map CheckResult.entry ++ more) := by
  rw [file_eq] at h
  obtain ⟨entry, ⟨before, after, hentered⟩, hrun⟩ := exists_of_returns_bind h
  have hentering := entering env files opened isRoot path before
  rw [hentered] at hentering
  cases hentering with
  | missing hname =>
    cases returns_pure_iff.1 hrun
    exact .file (.missing hname) .nil hrest
  | unreadable hfound hload hroot =>
    cases returns_pure_iff.1 hrun
    exact hroot ▸ .file (.unreadable hfound hload) .nil hrest
  | skipped hfound hload hdecides =>
    cases returns_pure_iff.1 hrun
    exact .file (.skipped hfound hload hdecides) .nil hrest
  | @live name tree hname hclosed hlive =>
    exact .file (.live hlive) (hsteps name tree hname hclosed hlive.load_eq results hrun) hrest

theorem expands_run :
    (∀ opened isRoot path results, Returns (file env files options opened isRoot path) results →
      ∀ rest more, Expands env files options rest more →
        Expands env files options (.file isRoot path :: rest)
          (results.map CheckResult.entry ++ more)) ∧
    (∀ opened (ss : List Step) results, Returns (steps env files options opened ss) results →
      Expands env files options (ss.map .step) (results.map CheckResult.entry)) ∧
    ∀ opened paths results, Returns (importAll env files options opened paths) results →
      Expands env files options (paths.map (.file false)) (results.map CheckResult.entry) := by
  refine file_induction env files options ?file ?nil ?step ?none ?path
  case file => exact fun opened isRoot path hsteps results h rest more ↦ expands_file hsteps h
  case nil =>
    intro opened results h
    rw [steps] at h
    cases returns_pure_iff.1 h
    exact .nil
  case step =>
    intro opened s rest hpaths hrest results h
    rw [steps_cons] at h
    obtain ⟨first, hfirst, hbind⟩ := exists_of_returns_bind h
    obtain ⟨others, hothers, hpure⟩ := exists_of_returns_bind hbind
    cases returns_pure_iff.1 hpure
    rw [List.map_append]
    exact expands_step hpaths hfirst (hrest others hothers)
  case none =>
    intro opened results h
    rw [importAll] at h
    cases returns_pure_iff.1 h
    exact .nil
  case path =>
    intro opened path rest hpath hrest results h
    rw [importAll] at h
    obtain ⟨first, hfirst, hbind⟩ := exists_of_returns_bind h
    obtain ⟨others, hothers, hpure⟩ := exists_of_returns_bind hbind
    cases returns_pure_iff.1 hpure
    rw [List.map_append]
    exact hpath first hfirst _ _ (hrest others hothers)

/-! ## There is one expansion -/

theorem Yields.unique {source : String} {v w : Value} (hv : Yields env source v)
    (hw : Yields env source w) : v = w := by
  obtain ⟨e, he, hv⟩ := hv
  obtain ⟨e', he', hw⟩ := hw
  cases he.symm.trans he'
  cases hv.symm.trans hw
  rfl

theorem Decides.unique {tree : CheckTree} {b c : Bool} (hb : Decides env tree b)
    (hc : Decides env tree c) : b = c := by
  cases hb with
  | blank hblank =>
    cases hc with
    | blank => rfl
    | value hne => exact absurd hblank hne
  | value hne hb =>
    cases hc with
    | blank hblank => exact absurd hblank hne
    | value _ hc => exact Value.bool.inj (hb.unique hc)

omit [HostCode] in
theorem StandsFor.unique {pattern : String} {paths paths' : List String}
    (h : StandsFor files options pattern paths) (h' : StandsFor files options pattern paths') :
    paths = paths' := by
  have hrun : imported files options pattern "" = (.ok paths, "") :=
    imported_eq_ok_iff.2 ⟨h, rfl⟩
  have hrun' : imported files options pattern "" = (.ok paths', "") :=
    imported_eq_ok_iff.2 ⟨h', rfl⟩
  cases hrun.symm.trans hrun'
  rfl

theorem Content.eq_of_live {path : String} {isRoot : Bool} {tree : CheckTree} {ss : List Step}
    (h : Content env files path isRoot ss) (hlive : Live env files path tree) : ss = tree.steps := by
  cases h with
  | missing hname => simpa [hname] using hlive.found
  | unreadable _ hload => cases hload.symm.trans hlive.load_eq
  | skipped _ hload hdecides =>
    cases hload.symm.trans hlive.load_eq
    cases hdecides.unique hlive.wanted
  | live h =>
    cases h.load_eq.symm.trans hlive.load_eq
    rfl

theorem Content.eq_nil_or_live {path : String} {isRoot : Bool} {ss : List Step}
    (h : Content env files path isRoot ss) :
    ss = [] ∨ ∃ tree, Live env files path tree ∧ ss = tree.steps := by
  cases h with
  | missing => exact .inl rfl
  | unreadable => exact .inl rfl
  | skipped => exact .inl rfl
  | @live _ tree hlive => exact .inr ⟨tree, hlive, rfl⟩

theorem Content.unique {path : String} {isRoot : Bool} {ss ss' : List Step}
    (h : Content env files path isRoot ss) (h' : Content env files path isRoot ss') : ss = ss' := by
  rcases h.eq_nil_or_live with hnil | ⟨tree, hlive, hss⟩
  · rcases h'.eq_nil_or_live with hnil' | ⟨tree, hlive, hss'⟩
    · rw [hnil, hnil']
    · rw [h.eq_of_live hlive, hss']
  · rw [h'.eq_of_live hlive, hss]

theorem Expands.unique (h : Expands env files options parts entries)
    (h' : Expands env files options parts more) : entries = more := by
  induction h generalizing more with
  | nil =>
    cases h'
    rfl
  | file hcontent _ _ ihsteps ihrest =>
    cases h' with
    | file hcontent' hsteps hrest =>
      cases hcontent.unique hcontent'
      rw [ihsteps hsteps, ihrest hrest]
  | imports himport hstands _ _ ihpaths ihrest =>
    cases h' with
    | imports _ hstands' hpaths hrest =>
      cases hstands.unique hstands'
      rw [ihpaths hpaths, ihrest hrest]
    | checks hcheck => exact absurd himport hcheck
  | checks hcheck _ ihrest =>
    cases h' with
    | imports himport => exact absurd himport hcheck
    | checks _ hrest => rw [ihrest hrest]

/-- A run that returns results returns one for every clause that its root stands for when all imports
are put in place, in the same order, with the name of the step and the text of the clause. -/
theorem root_expands {path printed : String}
    (h : (root env files options path printed).1 = .ok results) :
    ∀ entries, Expands env files options [.file true path] entries ↔
      entries = results.map CheckResult.entry := by
  have hroot : Returns (file env files options [] true path) results :=
    ⟨printed, _, Prod.ext h rfl⟩
  have hexpands : Expands env files options [.file true path] (results.map CheckResult.entry) := by
    simpa using expands_run.1 [] true path results hroot [] [] .nil
  intro entries
  constructor
  · intro hentries
    exact hentries.unique hexpands
  · rintro rfl
    exact hexpands

end Run

/-! ## A run with imports -/

namespace Run

def innerTree : CheckTree :=
  { steps := [{ name := "inside", condition := "\n c valid: optional\n// end\nd valid:" }] }

def besideTree : CheckTree := { steps := [{ name := "beside", condition := "e valid: optional" }] }

/-- Imports two files between two steps, and one that is missing. -/
def outerTree : CheckTree :=
  { steps := [{ name := "before", condition := "# none\n a valid: required" },
      { importPattern := "inner" }, { importPattern := " - " },
      { name := "after", condition := "b valid: email" }] }

/-- The files that match come in the order of their names, in which `-` is in front of `/`. -/
def nested : CheckFiles where
  known := ["/outer", "/inner/a", "/inner-b"]
  identify path :=
    if path = "outer" then some ⟨"/outer", by simp⟩
    else if path = "inner/a" then some ⟨"/inner/a", by simp⟩
    else if path = "inner-b" then some ⟨"/inner-b", by simp⟩
    else none
  load path :=
    .ok (if path = "outer" then outerTree else if path = "inner/a" then innerTree else besideTree)
  matching _ := .ok ["inner-b", "inner/a"]

def nestedOptions : RunOptions := { external := some "missing", errorPolicy := .record }

/-- One result for each clause, also for the one without a rule. -/
def nestedResults : List CheckResult :=
  [⟨"before", .failed, "a valid: required", "false"⟩, ⟨"inside", .ok, "c valid: optional", "true"⟩,
    ⟨"inside", .failed, "d valid:", "invalid validation `d valid:`: empty validation rule"⟩,
    ⟨"beside", .ok, "e valid: optional", "true"⟩, ⟨"after", .ok, "b valid: email", "true"⟩]

/-- The parts decide: `inner` is in front of `inner-b`. -/
theorem inOrder_nested : Path.InOrder ["inner-b", "inner/a"] ["inner/a", "inner-b"] where
  perm := .swap ..
  pairwise := List.pairwise_pair.2 (Path.partsLE_iff.1 (by decide +kernel))
  stable ps := by
    have hne : Path.parts "inner/a" ≠ Path.parts "inner-b" := by decide +kernel
    by_cases hinner : Path.parts "inner/a" = ps
    · have hbeside : Path.parts "inner-b" ≠ ps := hinner ▸ hne.symm
      simp [hinner, hbeside]
    · simp [List.filter_cons, hinner]

theorem root_nested [HostCode] : root .empty nested nestedOptions "outer" = pure nestedResults := by
  have houter : entered .empty nested [] true "outer" = pure (some ("/outer", outerTree)) := rfl
  have hinner : entered .empty nested ["/outer"] false "inner/a" =
      pure (some ("/inner/a", innerTree)) := rfl
  have hbeside : entered .empty nested ["/outer"] false "inner-b" =
      pure (some ("/inner-b", besideTree)) := rfl
  have hmissing : entered .empty nested ["/outer"] false "missing" = pure none := rfl
  have himport : StandsFor nested nestedOptions "inner" ["inner/a", "inner-b"] :=
    .matching (by decide) rfl inOrder_nested
  have hexternal : StandsFor nested nestedOptions " - " ["missing"] := .external (by decide) rfl
  -- The lines first: the monad is not to be run on them.
  have hbefore : Step.clauses { name := "before", condition := "# none\n a valid: required" } =
      [.validation "a valid: required" "a" "required"] := rfl
  have hinside : Step.clauses
      { name := "inside", condition := "\n c valid: optional\n// end\nd valid:" } =
        [.validation "c valid: optional" "c" "optional", .validation "d valid:" "d" ""] := rfl
  have hlines : Step.clauses { name := "beside", condition := "e valid: optional" } =
      [.validation "e valid: optional" "e" "optional"] := rfl
  have hafter : Step.clauses { name := "after", condition := "b valid: email" } =
      [.validation "b valid: email" "b" "email"] := rfl
  simp only [root, file_eq, houter, hinner, hbeside, hmissing, pure_bind, outerTree, innerTree,
    besideTree, steps_cons, step_of_standsFor (s := { importPattern := "inner" }) (by decide) himport,
    step_of_standsFor (s := { importPattern := " - " }) (by decide) hexternal, importAll, steps]
  rw [step, if_neg (by decide), hbefore, step, if_neg (by decide), hinside, step,
    if_neg (by decide), hlines, step, if_neg (by decide), hafter]
  rfl

/-- All clauses, in the order in which they stand when the imported files are put in place: those of
`inner/a` are in front of those of `inner-b`, although the names are found the other way round. -/
theorem root_nested_expands :
    letI := HostCode.none
    nested.matching "inner" = .ok ["inner-b", "inner/a"] ∧
      (root .empty nested nestedOptions "outer" "").1 = .ok nestedResults ∧
      ∀ entries, Expands .empty nested nestedOptions [.file true "outer"] entries ↔
        entries = [("before", "a valid: required"), ("inside", "c valid: optional"),
          ("inside", "d valid:"), ("beside", "e valid: optional"), ("after", "b valid: email")] := by
  let code : HostCode := HostCode.none
  have hrun : (root .empty nested nestedOptions "outer" "").1 = .ok nestedResults := by
    rw [root_nested]
    rfl
  exact ⟨rfl, hrun, root_expands hrun⟩

end Run

end ReleaseAudit
