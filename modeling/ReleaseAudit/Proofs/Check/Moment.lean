import Mathlib.Logic.Relation
import ReleaseAudit.Proofs.Check.Import

/-!
# Moments of a run

A run as a sequence of moments, each with the files that are open and the tasks that are left. The
tasks of a file are followed by the one that closes it, which is also done on the way out of an error.
The moments of a run lead to what the run returns.
-/

namespace ReleaseAudit

inductive Task where
  | visit (isRoot : Bool) (path : String)
  | step (step : Step)
  /-- A clause of the step `name`. -/
  | clause (name : String) (clause : Clause)
  /-- Closes the innermost open file. -/
  | close

/-- What comes of a task: the files open behind it, its results, and the tasks that it consists of. -/
structure TaskEffect where
  opened : List String
  results : List CheckResult := []
  tasks : List Task := []

namespace Task

def perform [HostCode] (env : Environment) (files : CheckFiles) (options : RunOptions)
    (opened : List String) : Task → Run TaskEffect
  | visit isRoot path => do
    match ← Run.entered env files opened isRoot path with
    | none => return { opened }
    | some (name, tree) =>
      return { opened := name :: opened, tasks := tree.steps.map step ++ [close] }
  | step s => do
    if s.isImport then
      return { opened, tasks := (← Run.imported files options s.importPattern).map (visit false) }
    else return { opened, tasks := s.clauses.map (clause s.name) }
  | clause name c => do return { opened, results := [← Run.clause env options name c] }
  | close => return { opened := opened.tail }

/-- The files open behind a task that is passed over. -/
def leave (opened : List String) : Task → List String
  | close => opened.tail
  | _ => opened

end Task

structure Moment where
  /-- The names of the open files, the innermost first. -/
  opened : List String
  tasks : List Task
  outcome : Except CheckError (List CheckResult)
  printed : String

namespace Moment

/-- The first task is performed, or passed over when the run has failed. -/
def next [HostCode] (env : Environment) (files : CheckFiles) (options : RunOptions) (m : Moment) :
    Option Moment :=
  match m.tasks with
  | [] => none
  | task :: rest =>
    match m.outcome with
    | .error _ => some { m with opened := task.leave m.opened, tasks := rest }
    | .ok results =>
      match task.perform env files options m.opened m.printed with
      | (.ok effect, printed) =>
        some ⟨effect.opened, effect.tasks ++ rest, .ok (results ++ effect.results), printed⟩
      | (.error e, printed) => some ⟨m.opened, rest, .error e, printed⟩

/-- The moment in front of a run. -/
def start (path printed : String) : Moment := ⟨[], [.visit true path], .ok [], printed⟩

/-- The moment behind a part of a run that returned `result`, with `results` from before. -/
def behind (opened : List String) (rest : List Task) (results : List CheckResult)
    (result : Except CheckError (List CheckResult) × String) : Moment :=
  ⟨opened, rest, result.1.map (results ++ ·), result.2⟩

variable [HostCode] (env : Environment) (files : CheckFiles) (options : RunOptions)

/-- The second moment comes after the first one, or is the same. -/
abbrev Leads : Moment → Moment → Prop :=
  Relation.ReflTransGen fun m m' ↦ m.next env files options = some m'

/-- Doing the tasks comes to the same as `act`, whatever there is to do behind them. -/
def Performs (opened : List String) (tasks : List Task) (act : Run (List CheckResult)) : Prop :=
  ∀ rest results printed,
    Leads env files options ⟨opened, tasks ++ rest, .ok results, printed⟩
      (behind opened rest results (act printed))

variable {env files options} {opened : List String} {task : Task} {tasks rest : List Task}
  {results : List CheckResult} {printed after : String} {effect : TaskEffect} {e : CheckError}

theorem next_of_ok (h : task.perform env files options opened printed = (.ok effect, after)) :
    next env files options ⟨opened, task :: rest, .ok results, printed⟩ =
      some ⟨effect.opened, effect.tasks ++ rest, .ok (results ++ effect.results), after⟩ := by
  simp only [next, h]

theorem next_of_error (h : task.perform env files options opened printed = (.error e, after)) :
    next env files options ⟨opened, task :: rest, .ok results, printed⟩ =
      some ⟨opened, rest, .error e, after⟩ := by
  simp only [next, h]

/-- A failed run passes over the tasks of the innermost file. -/
theorem leads_skip (e : CheckError) (printed : String) (htasks : ∀ task ∈ tasks, task ≠ .close) :
    Leads env files options ⟨opened, tasks ++ rest, .error e, printed⟩
      ⟨opened, rest, .error e, printed⟩ := by
  induction tasks with
  | nil => exact .refl
  | cons task more ih =>
    obtain ⟨htask, hmore⟩ := List.forall_mem_cons.1 htasks
    refine .head ?_ (ih hmore)
    cases task <;> first | rfl | exact absurd rfl htask

theorem performs_nil : Performs env files options opened [] (pure []) := by
  intro rest results printed
  change Leads env files options _ ⟨opened, rest, .ok (results ++ []), printed⟩
  rw [List.append_nil]
  exact .refl

theorem Performs.append {more : List Task} {act act' : Run (List CheckResult)}
    (hact : Performs env files options opened tasks act)
    (hact' : Performs env files options opened more act') (hmore : ∀ task ∈ more, task ≠ .close) :
    Performs env files options opened (tasks ++ more)
      (do let first ← act; return first ++ (← act')) := by
  intro rest results printed
  have hfirst := hact (more ++ rest) results printed
  rw [List.append_assoc, Access.bind_apply]
  rcases hrun : act printed with ⟨e | first, mid⟩ <;> rw [hrun] at hfirst
  · exact hfirst.trans (leads_skip e mid hmore)
  have hsecond := hact' rest (results ++ first) mid
  dsimp only
  rw [Access.bind_apply]
  rcases hrun' : act' mid with ⟨e | second, last⟩ <;> rw [hrun'] at hsecond
  · exact hfirst.trans hsecond
  · have heq : behind opened rest (results ++ first) (.ok second, last) =
        behind opened rest results (.ok (first ++ second), last) := by
      simp [behind, Except.map]
    exact hfirst.trans (heq ▸ hsecond)

/-- A task is performed by doing what it consists of. -/
theorem performs_task {γ : Type} {choose : Run γ} {effect : γ → TaskEffect}
    {act : γ → Run (List CheckResult)}
    (htask : task.perform env files options opened = (do return effect (← choose)))
    (hact : ∀ c, (∃ before after, choose before = (.ok c, after)) →
      ∀ rest results printed, Leads env files options
        ⟨(effect c).opened, (effect c).tasks ++ rest, .ok (results ++ (effect c).results), printed⟩
        (behind opened rest results (act c printed))) :
    Performs env files options opened [task] (choose >>= act) := by
  intro rest results printed
  have hperform := congrFun htask printed
  rw [Access.bind_apply] at hperform ⊢
  rcases hrun : choose printed with ⟨e | c, mid⟩ <;> rw [hrun] at hperform
  · exact .single (next_of_error hperform)
  · exact .head (next_of_ok hperform) (hact c ⟨printed, mid, hrun⟩ rest results mid)

theorem leads_close (name : String)
    (result : Except CheckError (List CheckResult) × String) :
    Leads env files options (behind (name :: opened) (.close :: rest) results result)
      (behind opened rest results result) := by
  rcases result with ⟨e | more, after⟩
  · exact .single rfl
  · have hclose : Task.close.perform env files options (name :: opened) after =
        (.ok { opened }, after) := rfl
    have hnext : next env files options
        ⟨name :: opened, .close :: rest, .ok (results ++ more), after⟩ =
          some ⟨opened, rest, .ok (results ++ more ++ []), after⟩ := next_of_ok hclose
    rw [List.append_nil] at hnext
    exact .single hnext

/-! ## A run leads to what it returns -/

theorem performs_clauses (opened : List String) (name : String) (cs : List Clause) :
    Performs env files options opened (cs.map (.clause name)) (Run.clauses env options name cs) := by
  induction cs with
  | nil => exact performs_nil
  | cons c cs ih =>
    have hfirst : Performs env files options opened [.clause name c]
        (do return [← Run.clause env options name c]) :=
      performs_task rfl fun _ _ _ _ _ ↦ .refl
    have hclauses : Run.clauses env options name (c :: cs) = (do
        let first ← (do return [← Run.clause env options name c])
        return first ++ (← Run.clauses env options name cs)) := by
      simp only [Run.clauses, bind_assoc, pure_bind, List.singleton_append]
    rw [hclauses]
    exact hfirst.append ih (by simp)

/-- Tasks without results of their own, below the same open files. -/
theorem Performs.leads {act : Run (List CheckResult)}
    (hact : Performs env files options opened tasks act) (rest : List Task)
    (results : List CheckResult) (printed : String) :
    Leads env files options ⟨opened, tasks ++ rest, .ok (results ++ []), printed⟩
      (behind opened rest results (act printed)) := by
  rw [List.append_nil]
  exact hact rest results printed

theorem performs_step {step : Step}
    (himport : step.isImport → ∀ paths, Performs env files options opened
      (paths.map (.visit false)) (Run.importAll env files options opened paths)) :
    Performs env files options opened [.step step] (Run.step env files options opened step) := by
  unfold Run.step
  split
  case isTrue h =>
    let effect (paths : List String) : TaskEffect := { opened, tasks := paths.map (.visit false) }
    have htask : (Task.step step).perform env files options opened =
        (do return effect (← Run.imported files options step.importPattern)) := by
      simp only [Task.perform, h, if_true, effect]
    exact performs_task htask fun paths _ ↦ (himport h paths).leads
  case isFalse h =>
    let effect (_ : Unit) : TaskEffect := { opened, tasks := step.clauses.map (.clause step.name) }
    have htask : (Task.step step).perform env files options opened =
        (do return effect (← pure ())) := by
      simp only [Task.perform, h, effect]
      rfl
    rw [← pure_bind () fun _ ↦ Run.clauses env options step.name step.clauses]
    exact performs_task htask fun _ _ ↦ (performs_clauses opened step.name step.clauses).leads

theorem performs_visit {isRoot : Bool} {path : String}
    (hsteps : ∀ name (tree : CheckTree), files.name? path = some name → name ∉ opened →
      files.load path = .ok tree →
      Performs env files options (name :: opened) (tree.steps.map .step)
        (Run.steps env files options (name :: opened) tree.steps)) :
    Performs env files options opened [.visit isRoot path]
      (Run.file env files options opened isRoot path) := by
  let effect : Option (String × CheckTree) → TaskEffect
    | none => { opened }
    | some (name, tree) =>
      { opened := name :: opened, tasks := tree.steps.map .step ++ [.close] }
  have htask : (Task.visit isRoot path).perform env files options opened =
      (do return effect (← Run.entered env files opened isRoot path)) := by
    unfold Task.perform
    refine bind_congr fun entry ↦ ?_
    rcases entry with _ | ⟨name, tree⟩ <;> rfl
  rw [Run.file_eq]
  refine performs_task htask ?_
  rintro (_ | ⟨name, tree⟩) ⟨before, mid, hentered⟩ rest results printed
  · exact .refl
  · have hentering := Run.entering env files opened isRoot path before
    rw [hentered] at hentering
    cases hentering with
    | live hname hclosed hlive =>
      have htree := (hsteps name tree hname hclosed hlive.load_eq).leads (.close :: rest) results
        printed
      rw [List.append_assoc]
      exact htree.trans (leads_close name _)

theorem performs_run :
    (∀ opened isRoot path, Performs env files options opened [.visit isRoot path]
      (Run.file env files options opened isRoot path)) ∧
    (∀ opened (steps : List Step), Performs env files options opened (steps.map .step)
      (Run.steps env files options opened steps)) ∧
    ∀ opened (paths : List String), Performs env files options opened (paths.map (.visit false))
      (Run.importAll env files options opened paths) := by
  refine Run.file_induction env files options ?file ?nil ?step ?none ?path
  case file => exact fun opened isRoot path hsteps ↦ performs_visit hsteps
  case nil =>
    intro opened
    rw [Run.steps]
    exact performs_nil
  case step =>
    intro opened step rest hpaths hrest
    rw [Run.steps_cons]
    exact (performs_step hpaths).append hrest (by simp)
  case none =>
    intro opened
    rw [Run.importAll]
    exact performs_nil
  case path =>
    intro opened path rest hpath hrest
    rw [Run.importAll]
    exact hpath.append hrest (by simp)

/-- From any moment in front of a visit a run comes to the moment behind it, where the same files are
open, whether the visit returns results or an error. -/
theorem visit_leads (opened : List String) (isRoot : Bool) (path : String) (rest : List Task)
    (results : List CheckResult) (printed : String) :
    Leads env files options ⟨opened, .visit isRoot path :: rest, .ok results, printed⟩
      (behind opened rest results (Run.file env files options opened isRoot path printed)) :=
  performs_run.1 opened isRoot path rest results printed

/-- The last moment of the run of a check file. -/
def last (env : Environment) (files : CheckFiles) (options : RunOptions) (path printed : String) :
    Moment :=
  behind [] [] [] (Run.root env files options path printed)

theorem start_leads (path printed : String) :
    Leads env files options (start path printed) (last env files options path printed) :=
  visit_leads [] true path [] [] printed

theorem last_outcome (path printed : String) :
    (last env files options path printed).outcome = (Run.root env files options path printed).1 := by
  unfold last behind
  cases (Run.root env files options path printed).1 <;> rfl

/-! ## A run is one sequence, and it ends -/

variable {m m' : Moment}

theorem next_last (path printed : String) :
    next env files options (last env files options path printed) = none := rfl

theorem next_rightUnique :
    Relator.RightUnique fun m m' : Moment ↦ m.next env files options = some m' := by
  intro m a b ha hb
  exact Option.some.inj (ha.symm.trans hb)

/-- Any moment of a run leads to its last one. -/
theorem leads_last {path printed : String}
    (hm : Leads env files options (start path printed) m) :
    Leads env files options m (last env files options path printed) := by
  -- Of two moments of a run one leads to the other, and none follows the last one.
  rcases Relation.ReflTransGen.total_of_right_unique next_rightUnique hm (start_leads path printed)
    with hlast | hlast
  · exact hlast
  · rcases Relation.ReflTransGen.cases_head hlast with heq | ⟨m', hnext, _⟩
    · exact heq ▸ .refl
    · cases (next_last path printed).symm.trans hnext

theorem acc_start (path printed : String) :
    Acc (fun m' m ↦ m.next env files options = some m') (start path printed) := by
  have hrun : Leads env files options (start path printed) (last env files options path printed) :=
    start_leads path printed
  refine hrun.head_induction_on ?_ ?_
  · refine .intro _ fun m hm ↦ ?_
    cases (next_last path printed).symm.trans hm
  · intro m m' hm _ hacc
    refine .intro _ fun a ha ↦ ?_
    exact Option.some.inj (hm.symm.trans ha) ▸ hacc

/-! ## What a step keeps -/

/-- What a moment that has not failed comes from: its first task has had an effect. -/
theorem exists_of_next_ok {results : List CheckResult} (hnext : m.next env files options = some m')
    (hm' : m'.outcome = .ok results) :
    ∃ task rest before effect, m.tasks = task :: rest ∧ m.outcome = .ok before ∧
      task.perform env files options m.opened m.printed = (.ok effect, m'.printed) ∧
      m' = ⟨effect.opened, effect.tasks ++ rest, .ok (before ++ effect.results), m'.printed⟩ := by
  obtain ⟨opened, _ | ⟨task, rest⟩, e | before, printed⟩ := m
  · cases hnext
  · cases hnext
  · cases hnext
    cases hm'
  · rcases hrun : task.perform env files options opened printed with ⟨e | effect, mid⟩
    · cases (next_of_error hrun).symm.trans hnext
      cases hm'
    · cases (next_of_ok hrun).symm.trans hnext
      exact ⟨task, rest, before, effect, rfl, rfl, hrun, rfl⟩

end Moment

end ReleaseAudit
