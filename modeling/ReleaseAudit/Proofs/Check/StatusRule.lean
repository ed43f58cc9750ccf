import Mathlib.Data.List.Forall2
import ReleaseAudit.Proofs.Check.Expansion
import ReleaseAudit.Proofs.Check.Policy
import ReleaseAudit.Proofs.Text.Words

/-!
# Status rules

The runs of a check file under the two status rules go through the same moments: they open the same
files, have the same tasks left and print the same texts. Their results differ in the statuses of
the expressions that have a value other than a boolean, and there one is the opposite of the other.
-/

namespace ReleaseAudit

/-! ## The clause of a result -/

/-- The text of a clause is all that it was read from. -/
theorem Clause.ofLine?_text {line : List Char} {c : Clause} (h : ofLine? line = some c) :
    ofLine? c.text.toList = some c := by
  have htext : c.text.toList = Text.trimChars line := by
    have hmap := Clause.map_text_ofLine? line
    rw [h] at hmap
    split at hmap
    · exact (congrArg String.toList (Option.some.inj hmap)).trans String.toList_ofList
    · cases hmap
  rw [htext, ← h]
  simp only [ofLine?, Text.trimChars_trimChars]

namespace Run

/-- Both fail with the same error, or neither fails and what they return is related by `R`. -/
inductive Outcomes {α : Type} (R : α → α → Prop) :
    Except CheckError α → Except CheckError α → Prop
  | error (e : CheckError) : Outcomes R (.error e) (.error e)
  | ok {a a' : α} : R a a' → Outcomes R (.ok a) (.ok a')

variable [HostCode]

/-- How the results of the clause `c` under the two status rules compare. -/
structure Compares (env : Environment) (c : Clause) (r r' : CheckResult) : Prop where
  name_eq : r.name = r'.name
  reference : r.reference = c.text ∧ r'.reference = c.text
  comment_eq : r.comment = r'.comment
  validation : ∀ text field rule, c = .validation text field rule → r.status = r'.status
  recorded : ∀ text, c = .expression text → (∀ v, ¬ Yields env text v) →
    r.status = .failed ∧ r'.status = .failed
  boolean : ∀ text b, c = .expression text → Yields env text (.bool b) →
    r.status = .ofBool b ∧ r'.status = .ofBool b
  other : ∀ text v, c = .expression text → Yields env text v → (∀ b, v ≠ .bool b) →
    r.status = .ok ∧ r'.status = .failed ∨ r.status = .failed ∧ r'.status = .ok

/-- Both results are of one clause, which can be read off from their references. -/
def Counterparts (env : Environment) (r r' : CheckResult) : Prop :=
  ∃ c, Clause.ofLine? r.reference.toList = some c ∧ Compares env c r r'

variable {env : Environment} {files : CheckFiles} {options : RunOptions} {rule rule' : StatusRule}

omit [HostCode] in
/-- Rules that are not the same judge a value that is not a boolean in opposite ways. -/
theorem status_opposite (hne : rule ≠ rule') {v : Value} (hv : ∀ b, v ≠ .bool b) :
    rule.status v = .ok ∧ rule'.status v = .failed ∨
      rule.status v = .failed ∧ rule'.status v = .ok := by
  have hzero : StatusRule.zeroIsOk.status v = .ofBool v.isZero := by
    cases v <;> first | rfl | exact absurd rfl (hv _)
  have htruthy : StatusRule.truthy.status v = .ofBool !v.isZero := by
    cases v <;> first | rfl | exact absurd rfl (hv _)
  cases rule <;> cases rule' <;> first | exact absurd rfl hne | skip
  all_goals
    rw [hzero, htruthy]
    cases v.isZero <;> simp [Status.ofBool]

theorem compares_validation (env : Environment) (name text field source comment : String)
    (status : Status) :
    Compares env (.validation text field source) ⟨name, status, text, comment⟩
      ⟨name, status, text, comment⟩ where
  name_eq := rfl
  reference := ⟨rfl, rfl⟩
  comment_eq := rfl
  validation _ _ _ _ := rfl
  recorded _ h := nomatch h
  boolean _ _ h := nomatch h
  other _ _ h := nomatch h

theorem compares_value {name text : String} {v : Value} (hne : rule ≠ rule')
    (hv : Yields env text v) :
    Compares env (.expression text) ⟨name, rule.status v, text, v.display⟩
      ⟨name, rule'.status v, text, v.display⟩ where
  name_eq := rfl
  reference := ⟨rfl, rfl⟩
  comment_eq := rfl
  validation _ _ _ h := nomatch h
  recorded text' h hnone := by
    cases h
    exact absurd hv (hnone v)
  boolean text' b h hb := by
    cases h
    cases hv.unique hb
    exact ⟨rfl, rfl⟩
  other text' w h hw hother := by
    cases h
    cases hv.unique hw
    exact status_opposite hne hother

theorem compares_recorded {name text comment : String} (hnone : ∀ v, ¬ Yields env text v) :
    Compares env (.expression text) ⟨name, .failed, text, comment⟩
      ⟨name, .failed, text, comment⟩ where
  name_eq := rfl
  reference := ⟨rfl, rfl⟩
  comment_eq := rfl
  validation _ _ _ h := nomatch h
  recorded _ _ _ := ⟨rfl, rfl⟩
  boolean text' b h hb := by
    cases h
    exact absurd hb (hnone _)
  other text' v h hv := by
    cases h
    exact absurd hv (hnone v)

/-- An evaluation that fails once fails with any text printed before. -/
theorem not_yields_of_evaluate {source printed after : String} {e : CheckError}
    (h : evaluate env source printed = (.error e, after)) (v : Value) : ¬ Yields env source v := by
  intro hv
  have hreturns : ∃ after, evaluate env source printed = (.ok v, after) := evaluate_eq_ok_iff.2 hv
  obtain ⟨after', hok⟩ := hreturns
  cases hok.symm.trans h

theorem judge_expression (rule : StatusRule) (text printed : String) :
    judge env rule (.expression text) printed =
      match evaluate env text printed with
      | (.ok v, after) => (.ok (rule.status v, v.display), after)
      | (.error e, after) => (.error e, after) := by
  simp only [judge]
  rw [Access.bind_apply]
  rcases evaluate env text printed with ⟨e | v, after⟩ <;> rfl

/-- A clause prints the same text under both rules, and fails under both or has results that
compare. -/
theorem clause_compares (env : Environment) (options : RunOptions) (hne : rule ≠ rule')
    (name : String) (c : Clause) (printed : String) :
    let run (rule : StatusRule) := clause env { options with statusRule := rule } name c printed
    (run rule).2 = (run rule').2 ∧ Outcomes (Compares env c) (run rule).1 (run rule').1 := by
  dsimp only
  rw [clause_apply, clause_apply]
  cases c with
  | validation text field source =>
    have hjudge : judge env rule (.validation text field source) printed =
        judge env rule' (.validation text field source) printed := rfl
    rw [hjudge]
    rcases judge env rule' (.validation text field source) printed with
      ⟨e | ⟨status, comment⟩, after⟩
    · cases options.errorPolicy with
      | abort => exact ⟨rfl, .error e⟩
      | record => exact ⟨rfl, .ok (compares_validation ..)⟩
    · exact ⟨rfl, .ok (compares_validation ..)⟩
  | expression text =>
    simp only [judge_expression]
    rcases hrun : evaluate env text printed with ⟨e | v, after⟩
    · cases options.errorPolicy with
      | abort => exact ⟨rfl, .error e⟩
      | record => exact ⟨rfl, .ok (compares_recorded (not_yields_of_evaluate hrun))⟩
    · have hvalue : Yields env text v := evaluate_eq_ok_iff.1 ⟨after, hrun⟩
      exact ⟨rfl, .ok (compares_value hne hvalue)⟩

end Run

namespace Moment

open Run (Outcomes Counterparts)

variable {env : Environment} {files : CheckFiles} {options : RunOptions} {rule rule' : StatusRule}
  {m m' after : Moment} {path printed : String}

/-- The moments have the same files open, the same tasks left and the same text printed, and both
runs have failed with one error or have results that are counterparts. -/
structure Alike [HostCode] (env : Environment) (m m' : Moment) : Prop where
  opened_eq : m.opened = m'.opened
  tasks_eq : m.tasks = m'.tasks
  printed_eq : m.printed = m'.printed
  outcomes : Outcomes (List.Forall₂ (Counterparts env)) m.outcome m'.outcome

/-- The clauses among the tasks can be read off from their texts. -/
def Legible (m : Moment) : Prop :=
  ∀ name c, .clause name c ∈ m.tasks → Clause.ofLine? c.text.toList = some c

theorem legible_start (path printed : String) : Legible (start path printed) := by
  intro name c hmem
  cases List.mem_singleton.1 hmem

variable [HostCode]

/-- Only a step brings clauses in, those of the lines of its condition. -/
theorem ofLine?_of_perform {task : Task} {opened : List String} {printed after name : String}
    {effect : TaskEffect} {c : Clause}
    (h : task.perform env files options opened printed = (.ok effect, after))
    (hmem : .clause name c ∈ effect.tasks) : Clause.ofLine? c.text.toList = some c := by
  cases task with
  | visit isRoot path =>
    obtain ⟨entry, mid, -, heffect⟩ := Access.bind_eq_ok_iff.1 h
    rcases entry with _ | ⟨_, tree⟩
    · cases heffect
      cases hmem
    · cases heffect
      simp at hmem
  | step s =>
    simp only [Task.perform] at h
    split at h
    · obtain ⟨paths, mid, -, heffect⟩ := Access.bind_eq_ok_iff.1 h
      cases heffect
      simp at hmem
    · cases h
      obtain ⟨c', hc', heq⟩ := List.mem_map.1 hmem
      cases heq
      obtain ⟨line, -, hline⟩ := List.mem_filterMap.1 hc'
      exact Clause.ofLine?_text hline
  | clause n c' =>
    obtain ⟨r, mid, -, heffect⟩ := Access.bind_eq_ok_iff.1 h
    cases heffect
    cases hmem
  | close =>
    cases h
    cases hmem

theorem legible_next (h : Legible m) (hnext : m.next env files options = some m') : Legible m' := by
  obtain ⟨opened, _ | ⟨task, rest⟩, e | results, printed⟩ := m
  · cases hnext
  · cases hnext
  · cases hnext
    exact fun name c hmem ↦ h name c (List.mem_cons_of_mem _ hmem)
  · rcases hrun : task.perform env files options opened printed with ⟨e | effect, mid⟩
    · cases (next_of_error hrun).symm.trans hnext
      exact fun name c hmem ↦ h name c (List.mem_cons_of_mem _ hmem)
    · cases (next_of_ok hrun).symm.trans hnext
      intro name c hmem
      rcases List.mem_append.1 hmem with heffect | hrest
      · exact ofLine?_of_perform hrun heffect
      · exact h name c (List.mem_cons_of_mem _ hrest)

theorem legible_of_leads (h : Leads env files options (start path printed) m) : Legible m := by
  induction h with
  | refl => exact legible_start path printed
  | tail _ hnext ih => exact legible_next ih hnext

/-! ## Two runs side by side -/

/-- The effects have the same files open behind them and the same tasks, and their results are
counterparts. -/
structure EffectsAlike (env : Environment) (effect effect' : TaskEffect) : Prop where
  opened_eq : effect.opened = effect'.opened
  tasks_eq : effect.tasks = effect'.tasks
  results : List.Forall₂ (Counterparts env) effect.results effect'.results

/-- No task but a clause looks at the rule. -/
theorem perform_alike (env : Environment) (files : CheckFiles) (options : RunOptions)
    (hne : rule ≠ rule') (opened : List String) (task : Task) (printed : String)
    (hclause : ∀ name c, task = .clause name c → Clause.ofLine? c.text.toList = some c) :
    let run (rule : StatusRule) :=
      task.perform env files { options with statusRule := rule } opened printed
    (run rule).2 = (run rule').2 ∧ Outcomes (EffectsAlike env) (run rule).1 (run rule').1 := by
  dsimp only
  cases task with
  | visit isRoot path =>
    rw [Task.perform, Task.perform, Access.bind_apply]
    rcases Run.entered env files opened isRoot path printed with ⟨e | _ | ⟨name, tree⟩, mid⟩
    · exact ⟨rfl, .error e⟩
    · exact ⟨rfl, .ok ⟨rfl, rfl, .nil⟩⟩
    · exact ⟨rfl, .ok ⟨rfl, rfl, .nil⟩⟩
  | step s =>
    by_cases himport : s.isImport
    · have himported : Run.imported files { options with statusRule := rule } s.importPattern =
          Run.imported files { options with statusRule := rule' } s.importPattern := rfl
      rw [Task.perform, Task.perform, if_pos himport, if_pos himport, himported, Access.bind_apply]
      rcases Run.imported files { options with statusRule := rule' } s.importPattern printed with
        ⟨e | paths, mid⟩
      · exact ⟨rfl, .error e⟩
      · exact ⟨rfl, .ok ⟨rfl, rfl, .nil⟩⟩
    · rw [Task.perform, Task.perform, if_neg himport, if_neg himport]
      exact ⟨rfl, .ok ⟨rfl, rfl, .nil⟩⟩
  | clause name c =>
    obtain ⟨hprinted, houtcomes⟩ := Run.clause_compares env options hne name c printed
    dsimp only at hprinted houtcomes
    rw [Task.perform, Task.perform, Access.bind_apply, Access.bind_apply]
    generalize Run.clause env { options with statusRule := rule } name c printed = run at *
    generalize Run.clause env { options with statusRule := rule' } name c printed = run' at *
    obtain ⟨result, mid⟩ := run
    obtain ⟨result', mid'⟩ := run'
    cases houtcomes with
    | error e => exact ⟨hprinted, .error e⟩
    | ok hcompares =>
      have hlegible : Counterparts env _ _ :=
        ⟨c, hcompares.reference.1 ▸ hclause name c rfl, hcompares⟩
      exact ⟨hprinted, .ok ⟨rfl, rfl, .cons hlegible .nil⟩⟩
  | close => exact ⟨rfl, .ok ⟨rfl, rfl, .nil⟩⟩

/-- From moments that are alike both runs step to moments that are alike. -/
theorem next_alike (hne : rule ≠ rule') (hlegible : Legible m) (h : Alike env m m')
    (hnext : m.next env files { options with statusRule := rule } = some after) :
    ∃ after', m'.next env files { options with statusRule := rule' } = some after' ∧
      Alike env after after' := by
  obtain ⟨opened, tasks, outcome, printed⟩ := m
  obtain ⟨opened', tasks', outcome', printed'⟩ := m'
  obtain ⟨hopened, htasks, hprinted, houtcomes⟩ := h
  dsimp only at hopened htasks hprinted houtcomes
  subst hopened htasks hprinted
  cases tasks with
  | nil => cases hnext
  | cons task rest =>
    cases houtcomes with
    | error e =>
      cases hnext
      exact ⟨_, rfl, rfl, rfl, rfl, .error e⟩
    | @ok results results' hresults =>
      have hclause (name : String) (c : Clause) (heq : task = .clause name c) :
          Clause.ofLine? c.text.toList = some c :=
        hlegible name c (heq ▸ List.mem_cons_self)
      obtain ⟨hmid, heffects⟩ :=
        perform_alike env files options hne opened task printed hclause
      rcases hrun : task.perform env files { options with statusRule := rule } opened printed with
        ⟨result, mid⟩
      rcases hrun' : task.perform env files { options with statusRule := rule' } opened printed with
        ⟨result', mid'⟩
      simp only [hrun, hrun'] at hmid heffects
      subst hmid
      cases heffects with
      | error e =>
        cases (next_of_error hrun).symm.trans hnext
        exact ⟨_, next_of_error hrun', rfl, rfl, rfl, .error e⟩
      | ok heffect =>
        cases (next_of_ok hrun).symm.trans hnext
        obtain ⟨heffectOpened, heffectTasks, heffectResults⟩ := heffect
        refine ⟨_, next_of_ok hrun', heffectOpened, ?_, rfl, .ok ?_⟩
        · exact congrArg (· ++ rest) heffectTasks
        · exact List.rel_append hresults heffectResults

/-- Whatever moment the run under one rule comes to, the run under the other comes to one like
it. -/
theorem exists_alike (hne : rule ≠ rule')
    (h : Leads env files { options with statusRule := rule } (start path printed) m) :
    ∃ m', Leads env files { options with statusRule := rule' } (start path printed) m' ∧
      Alike env m m' := by
  induction h with
  | refl => exact ⟨_, .refl, rfl, rfl, rfl, .ok .nil⟩
  | tail hleads hnext ih =>
    obtain ⟨b, hb, halike⟩ := ih
    obtain ⟨after, hstep, halike'⟩ := next_alike hne (legible_of_leads hleads) halike hnext
    exact ⟨after, hb.tail hstep, halike'⟩

end Moment

namespace Run

/-- How the runs of the check file at `path` under the two status rules compare. -/
structure RuleVisible [HostCode] (env : Environment) (files : CheckFiles) (options : RunOptions)
    (path printed : String) : Prop where
  outcomes : Outcomes (List.Forall₂ (Counterparts env))
    (root env files { options with statusRule := .zeroIsOk } path printed).1
    (root env files { options with statusRule := .truthy } path printed).1
  printed_eq : (root env files { options with statusRule := .zeroIsOk } path printed).2 =
    (root env files { options with statusRule := .truthy } path printed).2
  /-- At every moment the same files are open and the same tasks left, so that no skip condition and
  no import has been decided in another way. -/
  moments : ∀ rule rule', rule ≠ rule' → ∀ m,
    Moment.Leads env files { options with statusRule := rule } (.start path printed) m →
      ∃ m', Moment.Leads env files { options with statusRule := rule' } (.start path printed) m' ∧
        Moment.Alike env m m'

/-- The status rule shows in the statuses of expressions that are not boolean, and nowhere else. -/
theorem root_ruleVisible [HostCode] (env : Environment) (files : CheckFiles) (options : RunOptions)
    (path printed : String) : RuleVisible env files options path printed := by
  let zeroIsOk := { options with statusRule := .zeroIsOk }
  have hne : StatusRule.zeroIsOk ≠ .truthy := nofun
  have hlast : Moment.Leads env files zeroIsOk (.start path printed)
      (.last env files zeroIsOk path printed) := Moment.start_leads path printed
  obtain ⟨m', hleads, hopened, htasks, hprinted, houtcomes⟩ := Moment.exists_alike hne hlast
  rw [Moment.last_outcome] at houtcomes
  have hroot := Moment.root_eq_of_ended hleads htasks.symm
  refine ⟨?_, ?_, fun rule rule' hne m hm ↦ Moment.exists_alike hne hm⟩
  · rw [hroot]
    exact houtcomes
  · rw [hroot]
    exact hprinted

end Run

end ReleaseAudit
