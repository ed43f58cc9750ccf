import Mathlib.Data.List.Chain
import Mathlib.Data.List.Nodup
import ReleaseAudit.Proofs.Check.Moment

/-!
# Import cycles

A run ends, since the files that are open are all different and there are finitely many of them. A run
that returns results has met no file that leads back to itself, and one that reports a cycle names the
files on it.
-/

namespace ReleaseAudit

namespace Run

variable [HostCode] {env : Environment} {files : CheckFiles} {options : RunOptions}
  {opened : List String} {root path next name : String} {results : List CheckResult}

/-! ## Runs that return results -/

theorem exists_returns_step {ss : List Step} {s : Step} (hs : s ∈ ss)
    (h : Returns (steps env files options opened ss) results) :
    ∃ more, Returns (step env files options opened s) more := by
  induction ss generalizing results with
  | nil => cases hs
  | cons t ss ih =>
    rw [steps_cons] at h
    obtain ⟨first, hfirst, hbind⟩ := exists_of_returns_bind h
    obtain ⟨more, hmore, _⟩ := exists_of_returns_bind hbind
    rcases List.mem_cons.1 hs with rfl | hs
    · exact ⟨first, hfirst⟩
    · exact ih hs hmore

theorem exists_returns_file {paths : List String} (hpath : path ∈ paths)
    (h : Returns (importAll env files options opened paths) results) :
    ∃ more, Returns (file env files options opened false path) more := by
  induction paths generalizing results with
  | nil => cases hpath
  | cons p paths ih =>
    rw [importAll] at h
    obtain ⟨first, hfirst, hbind⟩ := exists_of_returns_bind h
    obtain ⟨more, hmore, _⟩ := exists_of_returns_bind hbind
    rcases List.mem_cons.1 hpath with rfl | hpath
    · exact ⟨first, hfirst⟩
    · exact ih hpath hmore

theorem notMem_of_returns_file {isRoot : Bool} (hname : files.name? path = some name)
    (h : Returns (file env files options opened isRoot path) results) : name ∉ opened := by
  intro hopen
  rw [file_eq] at h
  obtain ⟨_, ⟨before, after, hentered⟩, _⟩ := exists_of_returns_bind h
  simp only [entered, hname, if_pos hopen] at hentered
  cases hentered

/-- A run that returns results has run all that the file imports, while the file was open. -/
theorem exists_returns_of_imports {isRoot : Bool} (hname : files.name? path = some name)
    (himports : Imports env files options path next)
    (h : Returns (file env files options opened isRoot path) results) :
    ∃ more, Returns (file env files options (name :: opened) false next) more := by
  obtain ⟨tree, s, paths, hlive, hs, himport, hstands, hnext⟩ := himports
  have hclosed := notMem_of_returns_file hname h
  rw [file_eq] at h
  obtain ⟨entry, ⟨before, after, hentry⟩, hsteps⟩ := exists_of_returns_bind h
  obtain ⟨mid, hentered⟩ := entered_of_live hname hclosed hlive isRoot before
  cases hentered.symm.trans hentry
  obtain ⟨more, hstep⟩ := exists_returns_step hs hsteps
  rw [step_of_standsFor himport hstands] at hstep
  exact exists_returns_file hnext hstep

theorem exists_returns_of_transGen {isRoot : Bool} (hname : files.name? path = some name)
    (hleads : Relation.TransGen (Imports env files options) path next)
    (h : Returns (file env files options opened isRoot path) results) :
    ∃ below more, name ∈ below ∧ Returns (file env files options below false next) more := by
  induction hleads with
  | single himports =>
    obtain ⟨more, hnext⟩ := exists_returns_of_imports hname himports h
    exact ⟨_, more, List.mem_cons_self, hnext⟩
  | @tail q r _ himports ih =>
    obtain ⟨below, more, hbelow, hq⟩ := ih
    obtain ⟨_, _, _, hlive, _⟩ := id himports
    obtain ⟨name', hname'⟩ := Option.isSome_iff_exists.1 hlive.found
    obtain ⟨more', hr⟩ := exists_returns_of_imports hname' himports hq
    exact ⟨_, more', List.mem_cons_of_mem _ hbelow, hr⟩

/-- No file that a run meets leads back to itself when the run returns results. -/
theorem name?_ne_of_returns {isRoot : Bool}
    (hleads : Relation.TransGen (Imports env files options) path next)
    (h : Returns (file env files options opened isRoot path) results) :
    files.name? path ≠ files.name? next := by
  intro heq
  obtain ⟨_, ⟨_, _, _, hlive, _⟩, _⟩ := Relation.TransGen.head'_iff.1 hleads
  obtain ⟨name, hname⟩ := Option.isSome_iff_exists.1 hlive.found
  obtain ⟨below, more, hbelow, hnext⟩ := exists_returns_of_transGen hname hleads h
  exact notMem_of_returns_file (heq ▸ hname) hnext hbelow

theorem exists_returns_of_reflTransGen {isRoot : Bool}
    (hleads : Relation.ReflTransGen (Imports env files options) path next)
    (h : Returns (file env files options opened isRoot path) results) :
    ∃ below isRoot more, Returns (file env files options below isRoot next) more := by
  rcases Relation.reflTransGen_iff_eq_or_transGen.1 hleads with rfl | htrans
  · exact ⟨opened, isRoot, results, h⟩
  · obtain ⟨_, ⟨_, _, _, hlive, _⟩, _⟩ := Relation.TransGen.head'_iff.1 htrans
    obtain ⟨name, hname⟩ := Option.isSome_iff_exists.1 hlive.found
    obtain ⟨below, more, _, hnext⟩ := exists_returns_of_transGen hname htrans h
    exact ⟨below, false, more, hnext⟩

/-! ## The files that are open -/

/-- The files open on the way from `root` to a path, the innermost first. -/
inductive Trail (env : Environment) (files : CheckFiles) (options : RunOptions) (root : String) :
    List String → String → Prop
  | root : Trail env files options root [] root
  | next {opened : List String} {path name next : String} :
      Trail env files options root opened path → files.name? path = some name → name ∉ opened →
      Imports env files options path next → Trail env files options root (name :: opened) next

/-- The open files are found on a walk over imports from the root to the path. -/
theorem Trail.exists_walk (h : Trail env files options root opened path) :
    ∃ walk, (walk ++ [path]).head? = some root ∧ walk.map files.name? = opened.reverse.map some ∧
      (walk ++ [path]).IsChain (Imports env files options) := by
  induction h with
  | root => exact ⟨[], rfl, rfl, .singleton _⟩
  | @next opened path name next _ hname _ himports ih =>
    obtain ⟨walk, hhead, hnames, hchain⟩ := ih
    refine ⟨walk ++ [path], ?_, ?_, ?_⟩
    · rw [List.head?_append, hhead]
      rfl
    · simp [hnames, hname]
    · exact List.isChain_append.2 ⟨hchain, .singleton _, by simpa using himports⟩

theorem Trail.nodup (h : Trail env files options root opened path) : opened.Nodup := by
  induction h with
  | root => exact List.nodup_nil
  | next _ _ hclosed _ ih => exact List.nodup_cons.2 ⟨hclosed, ih⟩

/-- A cycle of imports as a run reports it: it came from `root` over the files of `chain`, each of
which imports the next one, to a path at which it found `name` again. -/
structure Loop (env : Environment) (files : CheckFiles) (options : RunOptions) (root name : String)
    (chain : List String) : Prop where
  nodup : chain.Nodup
  mem : name ∈ chain
  walk : ∃ paths : List String, paths.head? = some root ∧
    paths.map files.name? = (chain ++ [name]).map some ∧ paths.IsChain (Imports env files options)

theorem Trail.loop (h : Trail env files options root opened path)
    (hname : files.name? path = some name) (hopen : name ∈ opened) :
    Loop env files options root name opened.reverse where
  nodup := List.nodup_reverse.2 h.nodup
  mem := List.mem_reverse.2 hopen
  walk := by
    obtain ⟨walk, hhead, hnames, hchain⟩ := h.exists_walk
    refine ⟨walk ++ [path], hhead, ?_, hchain⟩
    rw [List.map_append, List.map_append, hnames]
    simp [hname]

end Run

/-! ## Moments -/

namespace Moment

open Run (Trail Loop)

variable [HostCode] {env : Environment} {files : CheckFiles} {options : RunOptions}
  {opened : List String} {root path name printed after : String} {task : Task}
  {tasks rest : List Task} {m m' : Moment} {effect : TaskEffect} {e : CheckError}

/-- The tasks fit the open files: what is to be visited is reached by way of them, the steps are those
of the innermost one, and each of them is still to be closed. -/
inductive Scheduled (env : Environment) (files : CheckFiles) (options : RunOptions) (root : String) :
    List String → List Task → Prop
  | done : Scheduled env files options root [] []
  | visit {opened : List String} {isRoot : Bool} {path : String} {rest : List Task} :
      Trail env files options root opened path → Scheduled env files options root opened rest →
      Scheduled env files options root opened (.visit isRoot path :: rest)
  | step {opened : List String} {name path : String} {tree : CheckTree} {s : Step}
      {rest : List Task} : Trail env files options root opened path →
      files.name? path = some name → name ∉ opened → Run.Live env files path tree →
      s ∈ tree.steps → Scheduled env files options root (name :: opened) rest →
      Scheduled env files options root (name :: opened) (.step s :: rest)
  | clause {opened : List String} {name : String} {c : Clause} {rest : List Task} :
      Scheduled env files options root opened rest →
      Scheduled env files options root opened (.clause name c :: rest)
  | close {opened : List String} {name : String} {rest : List Task} : name ∉ opened →
      Scheduled env files options root opened rest →
      Scheduled env files options root (name :: opened) (.close :: rest)

theorem Scheduled.nodup (h : Scheduled env files options root opened tasks) : opened.Nodup := by
  induction h with
  | done => exact List.nodup_nil
  | visit _ _ ih => exact ih
  | step _ _ _ _ _ _ ih => exact ih
  | clause _ ih => exact ih
  | close hclosed _ ih => exact List.nodup_cons.2 ⟨hclosed, ih⟩

/-- The tasks behind one that is passed over. -/
theorem Scheduled.leave (h : Scheduled env files options root opened (task :: rest)) :
    Scheduled env files options root (task.leave opened) rest := by
  cases h with
  | visit _ hrest => exact hrest
  | step _ _ _ _ _ hrest => exact hrest
  | clause hrest => exact hrest
  | close _ hrest => exact hrest

theorem Scheduled.visits {paths : List String}
    (hpaths : ∀ path ∈ paths, Trail env files options root opened path)
    (hrest : Scheduled env files options root opened rest) :
    Scheduled env files options root opened (paths.map (.visit false) ++ rest) := by
  induction paths with
  | nil => exact hrest
  | cons path paths ih =>
    obtain ⟨hpath, hpaths⟩ := List.forall_mem_cons.1 hpaths
    exact .visit hpath (ih hpaths)

theorem Scheduled.clauses {cs : List Clause}
    (hrest : Scheduled env files options root opened rest) :
    Scheduled env files options root opened (cs.map (.clause name) ++ rest) := by
  induction cs with
  | nil => exact hrest
  | cons c cs ih => exact .clause ih

theorem Scheduled.steps {tree : CheckTree} {ss : List Step}
    (htrail : Trail env files options root opened path) (hname : files.name? path = some name)
    (hclosed : name ∉ opened) (hlive : Run.Live env files path tree) (hss : ss ⊆ tree.steps)
    (hrest : Scheduled env files options root (name :: opened) rest) :
    Scheduled env files options root (name :: opened) (ss.map .step ++ rest) := by
  induction ss with
  | nil => exact hrest
  | cons s ss ih =>
    obtain ⟨hs, hss⟩ := List.cons_subset.1 hss
    exact .step htrail hname hclosed hlive hs (ih hss)

/-- Performing a task schedules what it consists of. -/
theorem Scheduled.perform (h : Scheduled env files options root opened (task :: rest))
    (hperform : task.perform env files options opened printed = (.ok effect, after)) :
    Scheduled env files options root effect.opened (effect.tasks ++ rest) := by
  cases h with
  | @visit _ isRoot path _ htrail hrest =>
    unfold Task.perform at hperform
    obtain ⟨entry, mid, hentered, hpure⟩ := Access.bind_eq_ok_iff.1 hperform
    have hentering := Run.entering env files opened isRoot path printed
    rw [hentered] at hentering
    rcases entry with _ | ⟨name, tree⟩
    · cases hpure
      exact hrest
    · cases hpure
      cases hentering with
      | live hname hclosed hlive =>
        rw [List.append_assoc]
        exact .steps htrail hname hclosed hlive (List.Subset.refl _) (.close hclosed hrest)
  | @step opened name path tree s _ htrail hname hclosed hlive hs hrest =>
    by_cases himport : s.isImport
    · rw [Task.perform, if_pos himport] at hperform
      obtain ⟨paths, mid, hpaths, hpure⟩ := Access.bind_eq_ok_iff.1 hperform
      cases hpure
      refine .visits (fun next hnext ↦ .next htrail hname hclosed ?_) hrest
      exact ⟨tree, s, paths, hlive, hs, himport, (Run.imported_eq_ok_iff.1 hpaths).1, hnext⟩
    · rw [Task.perform, if_neg himport] at hperform
      cases hperform
      exact .clauses hrest
  | clause hrest =>
    obtain ⟨result, mid, hresult, hpure⟩ := Access.bind_eq_ok_iff.1 hperform
    cases hpure
    exact hrest
  | close _ hrest =>
    cases hperform
    exact hrest

/-- Only a visit reports a cycle, and only of a file that is open. -/
theorem exists_of_perform_cycle {chain : List String}
    (h : task.perform env files options opened printed = (.error (.cycle name chain), after)) :
    ∃ isRoot path, task = .visit isRoot path ∧ files.name? path = some name ∧ name ∈ opened ∧
      chain = opened.reverse := by
  cases task with
  | visit isRoot path =>
    have hentering := Run.entering env files opened isRoot path printed
    rw [Task.perform, Access.bind_apply] at h
    rcases hentered : Run.entered env files opened isRoot path printed with ⟨e | _ | _, mid⟩ <;>
      rw [hentered] at h hentering <;> cases h
    cases hentering with
    | cycle hname hopen => exact ⟨isRoot, path, rfl, hname, hopen, rfl⟩
    | undecided hne => exact absurd rfl (hne name chain)
  | step s =>
    by_cases himport : s.isImport
    · rw [Task.perform, if_pos himport, Access.bind_apply] at h
      rcases hpaths : Run.imported files options s.importPattern printed with ⟨e | _, mid⟩ <;>
        rw [hpaths] at h <;> cases h
      exact absurd rfl (Run.imported_ne_cycle hpaths)
    · rw [Task.perform, if_neg himport] at h
      cases h
  | clause name' c =>
    rw [Task.perform, Access.bind_apply, Run.clause_apply] at h
    rcases hjudge : Run.judge env options.statusRule c printed with ⟨e | ⟨_, _⟩, mid⟩ <;>
      rw [hjudge] at h
    · cases hpolicy : options.errorPolicy <;> simp only [hpolicy] at h <;> cases h
      cases Run.isRecordable_of_judge hjudge
    · cases h
  | close => cases h

theorem leave_eq_of_perform_error
    (h : task.perform env files options opened printed = (.error e, after)) :
    task.leave opened = opened := by
  cases task with
  | close => cases h
  | _ => rfl

/-- What holds at every moment of the run of the check file at `root`. -/
structure Sound (env : Environment) (files : CheckFiles) (options : RunOptions) (root : String)
    (m : Moment) : Prop where
  scheduled : Scheduled env files options root m.opened m.tasks
  loop : ∀ name chain, m.outcome = .error (.cycle name chain) →
    Loop env files options root name chain

theorem Sound.next (hm : Sound env files options root m)
    (hnext : m.next env files options = some m') : Sound env files options root m' := by
  obtain ⟨opened, _ | ⟨task, rest⟩, e | results, printed⟩ := m
  · cases hnext
  · cases hnext
  · cases hnext
    exact ⟨hm.scheduled.leave, hm.loop⟩
  · rcases hrun : task.perform env files options opened printed with ⟨e | effect, after⟩
    · cases (next_of_error hrun).symm.trans hnext
      refine ⟨leave_eq_of_perform_error hrun ▸ hm.scheduled.leave, fun name chain he ↦ ?_⟩
      cases he
      obtain ⟨isRoot, path, rfl, hname, hopen, rfl⟩ := exists_of_perform_cycle hrun
      obtain ⟨⟩ | ⟨htrail, _⟩ := hm.scheduled
      exact htrail.loop hname hopen
    · cases (next_of_ok hrun).symm.trans hnext
      exact ⟨hm.scheduled.perform hrun, by simp⟩

theorem sound_start (path printed : String) :
    Sound env files options path (start path printed) where
  scheduled := .visit .root .done
  loop name chain h := by cases h

theorem sound_of_leads {printed : String} (h : Leads env files options (start path printed) m) :
    Sound env files options path m := by
  induction h with
  | refl => exact sound_start path printed
  | tail _ hnext ih => exact ih.next hnext

end Moment

namespace Run

/-- What is certain of the run of the check file at `path`. -/
structure Settled [HostCode] (env : Environment) (files : CheckFiles) (options : RunOptions)
    (path printed : String) : Prop where
  /-- There is no infinite sequence of steps. -/
  ends : Acc (fun m' m ↦ m.next env files options = some m') (Moment.start path printed)
  returns : Moment.Leads env files options (.start path printed)
    (.last env files options path printed)
  /-- No walk over imports from the root comes to a file twice. -/
  acyclic : ∀ results, (root env files options path printed).1 = .ok results →
    ∀ p q, Relation.ReflTransGen (Imports env files options) path p →
      Relation.TransGen (Imports env files options) p q → files.name? p ≠ files.name? q
  cycle : ∀ name chain, (root env files options path printed).1 = .error (.cycle name chain) →
    Loop env files options path name chain
  nodup : ∀ m, Moment.Leads env files options (.start path printed) m → m.opened.Nodup
  /-- The same files are open behind a visit as in front of it, however it ends. -/
  restored : ∀ opened isRoot p rest results before,
    Moment.Leads env files options ⟨opened, .visit isRoot p :: rest, .ok results, before⟩
      (.behind opened rest results (file env files options opened isRoot p before))

/-- Every run of a check file ends. It returns results only when no file on its way leads back to
itself, and it reports a cycle only when there is one. -/
theorem root_settled [HostCode] (env : Environment) (files : CheckFiles) (options : RunOptions)
    (path printed : String) : Settled env files options path printed where
  ends := Moment.acc_start path printed
  returns := Moment.start_leads path printed
  acyclic results hresults p q hp hq := by
    have hroot : Returns (file env files options [] true path) results :=
      ⟨printed, _, Prod.ext hresults rfl⟩
    obtain ⟨below, isRoot, more, hmore⟩ := exists_returns_of_reflTransGen hp hroot
    exact name?_ne_of_returns hq hmore
  cycle name chain hcycle := by
    have hsound : Moment.Sound env files options path (.last env files options path printed) :=
      Moment.sound_of_leads (Moment.start_leads path printed)
    refine hsound.loop name chain ?_
    rw [Moment.last_outcome, hcycle]
  nodup m hm := (Moment.sound_of_leads hm).scheduled.nodup
  restored := Moment.visit_leads

end Run

end ReleaseAudit
