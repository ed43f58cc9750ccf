import ReleaseAudit.Proofs.Check.Moment

/-!
# Error policies

The runs of a check file under the two error policies are the same up to the first clause that fails.
There the one that records errors goes on with a failed result, so that it stops at errors of other
origin only.
-/

namespace ReleaseAudit

namespace Moment

variable [HostCode] {env : Environment} {files : CheckFiles} {options : RunOptions}
  {opened : List String} {path printed after : String} {task : Task} {m m' : Moment}
  {effect : TaskEffect} {e : CheckError} {before results : List CheckResult}

/-! ## How runs stop -/

/-- The run of the check file at `path` comes to `task` with the results `before`, and there fails. -/
def StopsAt (env : Environment) (files : CheckFiles) (options : RunOptions) (path printed : String)
    (before : List CheckResult) (task : Task) (e : CheckError) : Prop :=
  ∃ opened rest mid after,
    Leads env files options (start path printed) ⟨opened, task :: rest, .ok before, mid⟩ ∧
      task.perform env files options opened mid = (.error e, after)

/-- A run that has failed stays so, and prints nothing more. -/
theorem failed_of_leads (h : Leads env files options m m') (he : m.outcome = .error e) :
    m'.outcome = .error e ∧ m'.printed = m.printed := by
  induction h with
  | refl => exact ⟨he, rfl⟩
  | @tail b c _ hnext ih =>
    obtain ⟨opened, _ | ⟨task, rest⟩, outcome, last⟩ := b
    · cases hnext
    · obtain ⟨hb, hlast⟩ := ih
      cases hb
      cases hnext
      exact ⟨rfl, hlast⟩

theorem root_eq_of_ended (h : Leads env files options (start path printed) m) (hm : m.tasks = []) :
    Run.root env files options path printed = (m.outcome, m.printed) := by
  have hlast : m = last env files options path printed := by
    rcases Relation.ReflTransGen.cases_head (leads_last h) with heq | ⟨m', hnext, _⟩
    · exact heq
    · rw [next, hm] at hnext
      cases hnext
  rw [hlast, last_outcome]
  rfl

theorem root_eq_of_failed (h : Leads env files options (start path printed) m)
    (he : m.outcome = .error e) :
    Run.root env files options path printed = (.error e, m.printed) := by
  obtain ⟨houtcome, hprinted⟩ := failed_of_leads (leads_last h) he
  rw [last_outcome] at houtcome
  exact Prod.ext houtcome hprinted

theorem root_eq_of_stop {rest : List Task} {mid : String}
    (h : Leads env files options (start path printed) ⟨opened, task :: rest, .ok before, mid⟩)
    (htask : task.perform env files options opened mid = (.error e, after)) :
    Run.root env files options path printed = (.error e, after) := by
  have hnext := h.tail (next_of_error htask)
  exact root_eq_of_failed hnext rfl

theorem exists_stopsAt (h : Leads env files options (start path printed) m)
    (he : m.outcome = .error e) :
    ∃ before task, StopsAt env files options path printed before task e := by
  induction h with
  | refl => cases he
  | @tail b c hb hnext ih =>
    obtain ⟨opened, _ | ⟨task, rest⟩, e' | results, mid⟩ := b
    · cases hnext
    · cases hnext
    · cases hnext
      exact ih he
    · rcases hrun : task.perform env files options opened mid with ⟨e' | effect, last⟩
      · cases (next_of_error hrun).symm.trans hnext
        cases he
        exact ⟨results, task, opened, rest, mid, last, hb, hrun⟩
      · cases (next_of_ok hrun).symm.trans hnext
        cases he

/-- A run fails exactly when it stops at a task. -/
theorem root_eq_error_iff : (Run.root env files options path printed).1 = .error e ↔
    ∃ before task, StopsAt env files options path printed before task e := by
  constructor
  · intro he
    exact exists_stopsAt (start_leads path printed) ((last_outcome path printed).trans he)
  · rintro ⟨before, task, opened, rest, mid, after, hleads, htask⟩
    rw [root_eq_of_stop hleads htask]

/-- Results are only ever added behind those that there are. -/
theorem prefix_of_leads (h : Leads env files options m m') (hm : m.outcome = .ok before)
    (hm' : m'.outcome = .ok results) : before <+: results := by
  induction h generalizing results with
  | refl =>
    cases hm.symm.trans hm'
    exact List.prefix_refl _
  | tail _ hnext ih =>
    obtain ⟨task, rest, more, effect, _, hmore, _, hc⟩ := exists_of_next_ok hnext hm'
    rw [hc] at hm'
    cases hm'
    exact (ih hmore).trans (List.prefix_append _ _)

/-! ## The two policies -/

theorem perform_record_of_ok
    (h : task.perform env files { options with errorPolicy := .abort } opened printed =
      (.ok effect, after)) :
    task.perform env files { options with errorPolicy := .record } opened printed =
      (.ok effect, after) := by
  cases task with
  | visit | step | close => exact h
  | clause name c =>
    rw [Task.perform, Access.bind_apply, Run.clause_apply] at h ⊢
    rcases hjudge : Run.judge env options.statusRule c printed with ⟨e | ⟨status, comment⟩, mid⟩ <;>
      simp only [hjudge] at h ⊢
    · cases h
    · exact h

/-- An error in a clause becomes its result. -/
theorem perform_record_of_error {name : String} {c : Clause}
    (h : (Task.clause name c).perform env files { options with errorPolicy := .abort } opened
      printed = (.error e, after)) :
    (Task.clause name c).perform env files { options with errorPolicy := .record } opened printed =
      (.ok { opened, results := [⟨name, .failed, c.text, e.message⟩] }, after) := by
  rw [Task.perform, Access.bind_apply, Run.clause_apply] at h ⊢
  rcases hjudge : Run.judge env options.statusRule c printed with ⟨e | ⟨status, comment⟩, mid⟩ <;>
    simp only [hjudge] at h ⊢
  · cases h
    rfl
  · cases h

theorem perform_record_ne_error {name : String} {c : Clause} :
    (Task.clause name c).perform env files { options with errorPolicy := .record } opened printed ≠
      (.error e, after) := by
  intro h
  rw [Task.perform, Access.bind_apply, Run.clause_apply] at h
  rcases hjudge : Run.judge env options.statusRule c printed with ⟨e | ⟨status, comment⟩, mid⟩ <;>
    simp only [hjudge] at h <;> cases h

/-- As long as no clause has failed, both runs are at the same moment. -/
theorem leads_record
    (h : Leads env files { options with errorPolicy := .abort } (start path printed) m)
    (hm : m.outcome = .ok before) :
    Leads env files { options with errorPolicy := .record } (start path printed) m := by
  induction h generalizing before with
  | refl => exact .refl
  | @tail b c _ hnext ih =>
    obtain ⟨task, rest, more, effect, htasks, hmore, hperform, hc⟩ := exists_of_next_ok hnext hm
    refine (ih hmore).tail ?_
    obtain ⟨opened, tasks, outcome, mid⟩ := b
    cases htasks
    cases hmore
    rw [hc]
    exact next_of_ok (perform_record_of_ok hperform)

end Moment

namespace Run

open Moment (StopsAt)

/-- How the run of the check file at `path` that records errors compares with the one that they
abort. -/
structure Recorded [HostCode] (env : Environment) (files : CheckFiles) (options : RunOptions)
    (path printed : String) : Prop where
  ok : ∀ results after,
    root env files { options with errorPolicy := .abort } path printed = (.ok results, after) →
      root env files { options with errorPolicy := .record } path printed = (.ok results, after)
  stops : ∀ policy e,
    (root env files { options with errorPolicy := policy } path printed).1 = .error e ↔
      ∃ before task,
        StopsAt env files { options with errorPolicy := policy } path printed before task e
  outside : ∀ before task e,
    StopsAt env files { options with errorPolicy := .abort } path printed before task e →
      (∀ name c, task ≠ .clause name c) →
        root env files { options with errorPolicy := .record } path printed =
          root env files { options with errorPolicy := .abort } path printed
  /-- The results go on behind the clause, which has failed with the text of its error. -/
  clause : ∀ before name c e,
    StopsAt env files { options with errorPolicy := .abort } path printed before (.clause name c) e →
      ∀ results,
        (root env files { options with errorPolicy := .record } path printed).1 = .ok results →
          before ++ [⟨name, .failed, c.text, e.message⟩] <+: results
  never : ∀ before name c e,
    ¬ StopsAt env files { options with errorPolicy := .record } path printed before (.clause name c) e

/-- Only errors in clauses are recorded, and all of them are. -/
theorem root_recorded [HostCode] (env : Environment) (files : CheckFiles) (options : RunOptions)
    (path printed : String) : Recorded env files options path printed where
  ok results after h := by
    let abort := { options with errorPolicy := .abort }
    have hok : (Moment.last env files abort path printed).outcome = .ok results :=
      (Moment.last_outcome path printed).trans (congrArg Prod.fst h)
    -- No clause has failed, so that the last moment of the one run is a moment of the other.
    have hleads := Moment.leads_record (Moment.start_leads path printed) hok
    rw [Moment.root_eq_of_ended hleads rfl, hok]
    exact congrArg (Prod.mk _) (congrArg Prod.snd h)
  stops policy e := Moment.root_eq_error_iff
  outside before task e := by
    rintro ⟨opened, rest, mid, after, hleads, htask⟩ hclause
    have hrecord : task.perform env files { options with errorPolicy := .record } opened mid =
        (.error e, after) := by
      cases task with
      | visit | step | close => exact htask
      | clause name c => exact absurd rfl (hclause name c)
    rw [Moment.root_eq_of_stop hleads htask,
      Moment.root_eq_of_stop (Moment.leads_record hleads rfl) hrecord]
  clause before name c e := by
    rintro ⟨opened, rest, mid, after, hleads, htask⟩ results hresults
    have hnext := (Moment.leads_record hleads rfl).tail
      (Moment.next_of_ok (Moment.perform_record_of_error htask))
    exact Moment.prefix_of_leads (Moment.leads_last hnext) rfl
      ((Moment.last_outcome path printed).trans hresults)
  never before name c e := by
    rintro ⟨opened, rest, mid, after, _, htask⟩
    exact Moment.perform_record_ne_error htask

end Run

end ReleaseAudit
