import ReleaseAudit.Check.Run
import ReleaseAudit.Proofs.History.Access
import ReleaseAudit.Proofs.Path

/-!
# Imports

Which check files a run opens and which paths they import, said without a run: a file is live when it
is there, can be read and is not skipped, and it imports the paths that its import steps stand for.
-/

namespace ReleaseAudit

/-- The name of the file at a path. -/
def CheckFiles.name? (files : CheckFiles) (path : String) : Option String :=
  (files.identify path).map Subtype.val

namespace Run

/-- The paths that an import pattern stands for: that of the external file, or those that match, in the
order of their parts. -/
inductive StandsFor (files : CheckFiles) (options : RunOptions) (pattern : String) :
    List String → Prop
  | external {path : String} : Text.trim pattern = "-" → options.external = some path →
      StandsFor files options pattern [path]
  | matching {found paths : List String} : Text.trim pattern ≠ "-" →
      files.matching (rooted options.baseDirectory (Text.trim pattern)) = .ok found →
      Path.InOrder found paths → StandsFor files options pattern paths

/-! ## What the parts of a run return -/

variable {env : Environment} {files : CheckFiles} {options : RunOptions} {printed after : String}

/-- With some text printed before, `act` returns `a`. -/
def Returns {α : Type} (act : Run α) (a : α) : Prop := ∃ before after, act before = (.ok a, after)

theorem exists_of_returns_bind {α β : Type} {act : Run α} {next : α → Run β} {b : β}
    (h : Returns (act >>= next) b) : ∃ a, Returns act a ∧ Returns (next a) b := by
  obtain ⟨before, after, hrun⟩ := h
  obtain ⟨a, mid, hact, hnext⟩ := Access.bind_eq_ok_iff.1 hrun
  exact ⟨a, ⟨before, mid, hact⟩, mid, after, hnext⟩

theorem returns_pure_iff {α : Type} {a b : α} : Returns (pure a) b ↔ b = a := by
  constructor
  · rintro ⟨before, after, hrun⟩
    cases hrun
    rfl
  · rintro rfl
    exact ⟨"", "", rfl⟩

theorem ofExcept_apply {α ε : Type} (wrap : ε → CheckError) (x : Except ε α) (printed : String) :
    ofExcept wrap x printed = (x.mapError wrap, printed) := by
  cases x <;> rfl

theorem imported_eq_ok_iff {pattern : String} {paths : List String} :
    imported files options pattern printed = (.ok paths, after) ↔
      StandsFor files options pattern paths ∧ after = printed := by
  unfold imported
  by_cases hdash : Text.trim pattern = "-"
  · rw [if_pos hdash]
    constructor
    · cases hexternal : options.external with
      | none => intro h; cases h
      | some path => intro h; cases h; exact ⟨.external hdash hexternal, rfl⟩
    · rintro ⟨⟨_, hexternal⟩ | ⟨hne, _⟩, rfl⟩
      · rw [hexternal]; rfl
      · exact absurd hdash hne
  · rw [if_neg hdash, ofExcept_apply]
    constructor
    · cases hfound : files.matching (rooted options.baseDirectory (Text.trim pattern)) with
      | error e => intro h; cases h
      | ok found => intro h; cases h; exact ⟨.matching hdash hfound (Path.inOrder_sort found), rfl⟩
    · rintro ⟨⟨heq, _⟩ | ⟨_, hfound, horder⟩, rfl⟩
      · exact absurd heq hdash
      · rw [hfound, Path.inOrder_iff.1 horder]; rfl

theorem imported_ne_cycle {pattern name : String} {chain : List String} {e : CheckError}
    (h : imported files options pattern printed = (.error e, after)) : e ≠ .cycle name chain := by
  rintro rfl
  unfold imported at h
  by_cases hdash : Text.trim pattern = "-"
  · rw [if_pos hdash] at h
    cases hexternal : options.external <;> rw [hexternal] at h <;> cases h
  · rw [if_neg hdash, ofExcept_apply] at h
    cases hfound : files.matching (rooted options.baseDirectory (Text.trim pattern)) <;>
      rw [hfound] at h <;> cases h

/-! ## Check files that are run -/

variable [HostCode]

/-- The expression `source` has the value `v`. -/
def Yields (env : Environment) (source : String) (v : Value) : Prop :=
  ∃ e, Expr.compile env source = .ok e ∧ (e.evaluate env).1 = .ok v

/-- What the skip condition of a check file says about running it. -/
inductive Decides (env : Environment) (tree : CheckTree) : Bool → Prop
  | blank : (Text.trim tree.cond).isEmpty → Decides env tree true
  | value {b : Bool} : ¬ (Text.trim tree.cond).isEmpty →
      Yields env (Text.trim tree.cond) (.bool b) → Decides env tree b

/-- The file at `path` is there, can be read and is not skipped. -/
structure Live (env : Environment) (files : CheckFiles) (path : String) (tree : CheckTree) :
    Prop where
  found : (files.name? path).isSome
  load_eq : files.load path = .ok tree
  wanted : Decides env tree true

/-- The live file at `path` imports what is at `next`, whether that is a live file or not. -/
def Imports (env : Environment) (files : CheckFiles) (options : RunOptions) (path next : String) :
    Prop :=
  ∃ tree step paths, Live env files path tree ∧ step ∈ tree.steps ∧ step.isImport ∧
    StandsFor files options step.importPattern paths ∧ next ∈ paths

theorem evaluate_apply (env : Environment) (source printed : String) :
    evaluate env source printed =
      match Expr.compile env source with
      | .error e => (.error (.compile source e), printed)
      | .ok e =>
        ((e.evaluate env).1.mapError (.evaluate source), printed ++ (e.evaluate env).2) := by
  rw [evaluate, Access.bind_apply, ofExcept_apply]
  cases Expr.compile env source with
  | error e => rfl
  | ok e => exact ofExcept_apply ..

theorem evaluate_eq_ok_iff {source : String} {v : Value} :
    (∃ after, evaluate env source printed = (.ok v, after)) ↔ Yields env source v := by
  rw [evaluate_apply]
  constructor
  · rintro ⟨after, h⟩
    cases hcompile : Expr.compile env source with
    | error e => rw [hcompile] at h; cases h
    | ok e =>
      rw [hcompile] at h
      cases hvalue : (e.evaluate env).1 <;> simp only [hvalue] at h <;> cases h
      exact ⟨e, hcompile, hvalue⟩
  · rintro ⟨e, hcompile, hvalue⟩
    simp only [hcompile, hvalue]
    exact ⟨_, rfl⟩

theorem isWanted_apply (path : String) (tree : CheckTree) (printed : String) :
    isWanted env path tree printed =
      if (Text.trim tree.cond).isEmpty then (.ok true, printed)
      else
        match evaluate env (Text.trim tree.cond) printed with
        | (.error e, after) => (.error e, after)
        | (.ok (.bool b), after) => (.ok b, after)
        | (.ok v, after) => (.error (.condition path (Text.trim tree.cond) v), after) := by
  unfold isWanted
  split
  · rfl
  · rw [Access.bind_apply]
    rcases evaluate env (Text.trim tree.cond) printed with ⟨e | v, after⟩
    · rfl
    · cases v <;> rfl

theorem isWanted_eq_ok_iff {path : String} {tree : CheckTree} {b : Bool} :
    (∃ after, isWanted env path tree printed = (.ok b, after)) ↔ Decides env tree b := by
  rw [isWanted_apply]
  constructor
  · rintro ⟨after, h⟩
    split at h
    case isTrue hblank =>
      cases h
      exact .blank hblank
    case isFalse hblank =>
      split at h
      · cases h
      case h_2 c last hrun =>
        cases h
        exact .value hblank (evaluate_eq_ok_iff.1 ⟨_, hrun⟩)
      · cases h
  · rintro (hblank | ⟨hblank, hvalue⟩)
    · exact ⟨printed, if_pos hblank⟩
    · obtain ⟨after, hrun⟩ := evaluate_eq_ok_iff.2 hvalue
      exact ⟨after, by rw [if_neg hblank, hrun]⟩

theorem isWanted_ne_cycle {path name : String} {tree : CheckTree} {chain : List String}
    {e : CheckError} (h : isWanted env path tree printed = (.error e, after)) :
    e ≠ .cycle name chain := by
  rw [isWanted_apply] at h
  rintro rfl
  split at h
  · cases h
  split at h
  case h_1 e last hrun =>
    cases h
    rw [evaluate_apply] at hrun
    split at hrun
    · cases hrun
    · rename_i source e _
      cases hvalue : (e.evaluate env).1 <;> rw [hvalue] at hrun <;> cases hrun
  · cases h
  · cases h

/-! ## Clauses -/

/-- Whatever goes wrong in a clause can be recorded. -/
theorem isRecordable_of_judge {rule : StatusRule} {c : Clause} {e : CheckError}
    (h : judge env rule c printed = (.error e, after)) : e.isRecordable := by
  cases c with
  | validation text field source =>
    simp only [judge] at h
    rw [Access.bind_apply, ofExcept_apply] at h
    cases hcheck : Rule.check source (env.lookup field) <;> rw [hcheck] at h <;> cases h
    rfl
  | expression text =>
    simp only [judge] at h
    rw [Access.bind_apply, evaluate_apply] at h
    cases hcompile : Expr.compile env text with
    | error e => rw [hcompile] at h; cases h; rfl
    | ok e =>
      rw [hcompile] at h
      cases hvalue : (e.evaluate env).1 <;> simp only [hvalue] at h <;> cases h
      rfl

theorem clause_apply (name : String) (c : Clause) (printed : String) :
    clause env options name c printed =
      match judge env options.statusRule c printed with
      | (.ok (status, comment), after) =>
        (.ok { name, status, reference := c.text, comment }, after)
      | (.error e, after) =>
        match options.errorPolicy with
        | .abort => (.error e, after)
        | .record =>
          (.ok { name, status := .failed, reference := c.text, comment := e.message }, after) := by
  unfold clause
  rcases hrun : judge env options.statusRule c printed with ⟨e | ⟨status, comment⟩, after⟩
  · have hrecordable := isRecordable_of_judge hrun
    cases hpolicy : options.errorPolicy <;> simp [hrecordable]
  · rfl

/-! ## What a run does at a path -/

/-- The file that is run at a path, unless there is none to run. -/
def entered (env : Environment) (files : CheckFiles) (opened : List String) (isRoot : Bool)
    (path : String) : Run (Option (String × CheckTree)) :=
  match files.name? path with
  | none => pure none
  | some name =>
    if name ∈ opened then throw (.cycle name opened.reverse)
    else
      match files.load path with
      | .error e => if isRoot then throw (.load path e) else pure none
      | .ok tree => do return if ← isWanted env path tree then some (name, tree) else none

theorem file_eq (env : Environment) (files : CheckFiles) (options : RunOptions)
    (opened : List String) (isRoot : Bool) (path : String) :
    file env files options opened isRoot path =
      (entered env files opened isRoot path >>= fun
        | none => pure []
        | some (name, tree) => steps env files options (name :: opened) tree.steps) := by
  rw [file]
  unfold entered CheckFiles.name?
  rcases files.identify path with _ | ⟨name, hk⟩
  · rfl
  simp only [Option.map_some]
  split
  · rfl
  cases files.load path with
  | error e => cases isRoot <;> rfl
  | ok tree =>
    simp only [bind_assoc, pure_bind]
    refine bind_congr fun wanted ↦ ?_
    cases wanted <;> rfl

/-- Runs one step of the innermost open file. -/
def step (env : Environment) (files : CheckFiles) (options : RunOptions) (opened : List String)
    (s : Step) : Run (List CheckResult) :=
  if s.isImport then do
    importAll env files options opened (← imported files options s.importPattern)
  else clauses env options s.name s.clauses

theorem step_of_standsFor {opened : List String} {s : Step} {paths : List String}
    (himport : s.isImport) (hstands : StandsFor files options s.importPattern paths) :
    step env files options opened s = importAll env files options opened paths := by
  funext printed
  rw [step, if_pos himport, Access.bind_apply, imported_eq_ok_iff.2 ⟨hstands, rfl⟩]

theorem steps_cons (env : Environment) (files : CheckFiles) (options : RunOptions)
    (opened : List String) (s : Step) (rest : List Step) :
    steps env files options opened (s :: rest) =
      (do
        let first ← step env files options opened s
        return first ++ (← steps env files options opened rest)) := by
  rw [steps, step]
  split <;> simp only [bind_assoc]

/-- What can come of looking at a path. -/
inductive Entering (env : Environment) (files : CheckFiles) (opened : List String) (isRoot : Bool)
    (path : String) : Except CheckError (Option (String × CheckTree)) → Prop
  | missing : files.name? path = none → Entering env files opened isRoot path (.ok none)
  | cycle {name : String} : files.name? path = some name → name ∈ opened →
      Entering env files opened isRoot path (.error (.cycle name opened.reverse))
  | unreadable {e : LoadError} : (files.name? path).isSome → files.load path = .error e →
      isRoot = false → Entering env files opened isRoot path (.ok none)
  | unreadableRoot {e : LoadError} : files.load path = .error e → isRoot = true →
      Entering env files opened isRoot path (.error (.load path e))
  | undecided {e : CheckError} : (∀ name chain, e ≠ .cycle name chain) →
      Entering env files opened isRoot path (.error e)
  | skipped {tree : CheckTree} : (files.name? path).isSome → files.load path = .ok tree →
      Decides env tree false → Entering env files opened isRoot path (.ok none)
  | live {name : String} {tree : CheckTree} : files.name? path = some name → name ∉ opened →
      Live env files path tree → Entering env files opened isRoot path (.ok (some (name, tree)))

theorem entering (env : Environment) (files : CheckFiles) (opened : List String) (isRoot : Bool)
    (path printed : String) :
    Entering env files opened isRoot path (entered env files opened isRoot path printed).1 := by
  unfold entered
  cases hname : files.name? path with
  | none => exact .missing hname
  | some name =>
    by_cases hopen : name ∈ opened
    · simp only [if_pos hopen]
      exact .cycle hname hopen
    simp only [if_neg hopen]
    have hfound : (files.name? path).isSome := by simp [hname]
    cases hload : files.load path with
    | error e =>
      cases isRoot with
      | false => exact .unreadable hfound hload rfl
      | true => exact .unreadableRoot hload rfl
    | ok tree =>
      dsimp only
      rw [Access.bind_apply]
      rcases hwanted : isWanted env path tree printed with ⟨e | b, after⟩
      · exact .undecided fun _ _ ↦ isWanted_ne_cycle hwanted
      · have hdecides := isWanted_eq_ok_iff.1 ⟨after, hwanted⟩
        cases b with
        | false => exact .skipped hfound hload hdecides
        | true => exact .live hname hopen ⟨hfound, hload, hdecides⟩

/-- A live file is entered, unless it is open already. -/
theorem entered_of_live {opened : List String} {path name : String} {tree : CheckTree}
    (hname : files.name? path = some name) (hopen : name ∉ opened)
    (hlive : Live env files path tree) (isRoot : Bool) (printed : String) :
    ∃ after, entered env files opened isRoot path printed = (.ok (some (name, tree)), after) := by
  have hreturns : ∃ after, isWanted env path tree printed = (.ok true, after) :=
    isWanted_eq_ok_iff.2 hlive.wanted
  obtain ⟨after, hwanted⟩ := hreturns
  refine ⟨after, ?_⟩
  simp only [entered, hname, if_neg hopen, hlive.load_eq]
  rw [Access.bind_apply, hwanted]
  rfl

/-- Induction along a run: over the files that are opened, their steps and the imports of a step. -/
theorem file_induction (env : Environment) (files : CheckFiles) (options : RunOptions)
    {onFile : List String → Bool → String → Prop} {onSteps : List String → List Step → Prop}
    {onPaths : List String → List String → Prop}
    (hfile : ∀ opened isRoot path,
      (∀ name (tree : CheckTree), files.name? path = some name → name ∉ opened →
        files.load path = .ok tree → onSteps (name :: opened) tree.steps) →
      onFile opened isRoot path)
    (hnil : ∀ opened, onSteps opened [])
    (hstep : ∀ opened step rest, (step.isImport → ∀ paths, onPaths opened paths) →
      onSteps opened rest → onSteps opened (step :: rest))
    (hnone : ∀ opened, onPaths opened [])
    (hpath : ∀ opened path rest, onFile opened false path → onPaths opened rest →
      onPaths opened (path :: rest)) :
    (∀ opened isRoot path, onFile opened isRoot path) ∧
      (∀ opened steps, onSteps opened steps) ∧ ∀ opened paths, onPaths opened paths := by
  refine file.mutual_induct env files options onFile onSteps onPaths ?missing ?cycle ?unreadableRoot
    ?unreadable ?live hnil ?importStep ?checkStep hnone hpath
  case missing =>
    intro opened isRoot path hfile?
    refine hfile opened isRoot path fun name tree hname ↦ ?_
    simp [CheckFiles.name?, hfile?] at hname
  case cycle =>
    intro opened isRoot path name hk hfile? hopen
    refine hfile opened isRoot path fun name tree hname hclosed ↦ ?_
    simp only [CheckFiles.name?, hfile?, Option.map_some, Option.some.injEq] at hname
    exact absurd (hname ▸ hopen) hclosed
  case unreadableRoot =>
    intro opened path name hk hfile? hclosed e hload
    exact hfile opened true path fun name tree _ _ htree ↦ by simp [hload] at htree
  case unreadable =>
    intro opened isRoot path name hk hfile? hclosed e hload _
    exact hfile opened isRoot path fun name tree _ _ htree ↦ by simp [hload] at htree
  case live =>
    intro opened isRoot path name hk hfile? hclosed tree hload _ ih
    refine hfile opened isRoot path fun name tree hname _ htree ↦ ?_
    simp only [CheckFiles.name?, hfile?, Option.map_some, Option.some.injEq] at hname
    simp only [hload, Except.ok.injEq] at htree
    exact hname ▸ htree ▸ ih
  case importStep =>
    exact fun opened step rest _ hrest hpaths ↦ hstep opened step rest (fun _ ↦ hpaths) hrest
  case checkStep =>
    exact fun opened step rest hcheck hrest ↦
      hstep opened step rest (fun himport ↦ absurd himport hcheck) hrest

end Run

end ReleaseAudit
