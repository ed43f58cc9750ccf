import ReleaseAudit.Proofs.History.Range

/-!
# Runs for a range

A range is collected by two walks and then listed. On any graph, whatever it hands out, the rounds of
these loops come to an end and list no commit twice; nothing is assumed about cycles, or about the graph
handing out the same commit again.
-/

namespace ReleaseAudit.CommitGraph

variable {σ : Type} {g : CommitGraph σ}

/-- The rounds of a walk that does not enter `excluded`, without a bound on their number. A commit that
has not been seen is fetched, and `push` puts its parents on those that are pending. -/
inductive Visits (g : CommitGraph σ) (excluded : List String)
    (push : List String → Commit → List String → List String) :
    List String → List String → σ → Except HistoryError (List String) → σ → Prop
  | ended {seen : List String} {state : σ} : Visits g excluded push seen [] state (.ok seen) state
  | skip {seen rest : List String} {hash : String} {state after : σ}
      {result : Except HistoryError (List String)} : hash ∈ seen ∨ hash ∈ excluded →
      Visits g excluded push seen rest state result after →
      Visits g excluded push seen (hash :: rest) state result after
  | missing {seen rest : List String} {hash : String} {state after : σ} {e : HistoryError} :
      hash ∉ seen → hash ∉ excluded → g.fetch hash state = (.error e, after) →
      Visits g excluded push seen (hash :: rest) state (.error e) after
  | visit {seen rest : List String} {hash : String} {state mid after : σ}
      {commit : { _c : Commit // hash ∈ g.known }} {result : Except HistoryError (List String)} :
      hash ∉ seen → hash ∉ excluded → g.fetch hash state = (.ok commit, mid) →
      Visits g excluded push (hash :: seen) (push (hash :: seen) commit.val rest) mid result after →
      Visits g excluded push seen (hash :: rest) state result after

/-- The parents that have not been seen, the last one first. -/
def pushUnseen (seen : List String) (commit : Commit) (rest : List String) : List String :=
  (commit.parents.filter (· ∉ seen)).reverse ++ rest

/-- All parents, the last one first. -/
def pushAll (_seen : List String) (commit : Commit) (rest : List String) : List String :=
  commit.parents.reverse ++ rest

theorem collectAncestors_visits (seen pending : List String) (state : σ) :
    g.Visits [] pushUnseen seen pending state (g.collectAncestors seen pending state).1
      (g.collectAncestors seen pending state).2 := by
  fun_induction collectAncestors g seen pending generalizing state with
  | case1 seen => exact .ended
  | case2 seen hash rest hs ih => exact .skip (.inl hs) (ih state)
  | case3 seen hash rest hs ih =>
    rw [Access.bind_apply]
    rcases hfetch : g.fetch hash state with ⟨e | ⟨commit, hk⟩, mid⟩
    · exact .missing hs List.not_mem_nil hfetch
    · exact .visit hs List.not_mem_nil hfetch (ih commit hk mid)

theorem ancestors_visits (start : String) (state : σ) :
    g.Visits [] pushUnseen [] [start] state (g.ancestors start state).1
      (g.ancestors start state).2 :=
  collectAncestors_visits [] [start] state

theorem collectRange_visits (excluded : List String) (included : List (String × Commit))
    (pending : List String) (state : σ) :
    g.Visits excluded pushAll (included.map Prod.fst) pending state
      ((g.collectRange excluded included pending state).1.map (·.map Prod.fst))
      (g.collectRange excluded included pending state).2 := by
  fun_induction collectRange g excluded included pending generalizing state with
  | case1 included => exact .ended
  | case2 included hash rest hs ih => exact .skip (.inl hs) (ih state)
  | case3 included hash rest hs he ih => exact .skip (.inr he) (ih state)
  | case4 included hash rest hs he ih =>
    rw [Access.bind_apply]
    rcases hfetch : g.fetch hash state with ⟨e | ⟨commit, hk⟩, mid⟩
    · exact .missing hs he hfetch
    · exact .visit hs he hfetch (ih commit hk mid)

theorem Visits.nodup {excluded seen pending out : List String} {state after : σ}
    {push : List String → Commit → List String → List String}
    (hvisits : g.Visits excluded push seen pending state (.ok out) after) (hseen : seen.Nodup) :
    out.Nodup := by
  generalize hresult : Except.ok out = result at hvisits
  induction hvisits with
  | ended =>
    cases hresult
    exact hseen
  | skip _ _ ih => exact ih hseen hresult
  | missing _ _ _ => cases hresult
  | visit hs _ _ _ ih => exact ih (List.nodup_cons.2 ⟨hs, hseen⟩) hresult

/-- A range when the commits that are collected for it come in the order that `arrange` puts them in. -/
def commitRangeBy (g : CommitGraph σ) (arrange : List (String × Commit) → List (String × Commit))
    (base head : String) : Access σ (List Commit) := do
  let excluded ← g.ancestors base
  let included ← g.collectRange excluded [] [head]
  return Topological.order (arrange included)

theorem commitRangeBy_reverse (base head : String) :
    g.commitRangeBy List.reverse base head = g.commitRange base head := rfl

/-- How the run for a range ends: with the failure of one of the walks, or with the rounds of the
listing. -/
inductive RangeRun (g : CommitGraph σ) (base head : String) (state : σ) :
    Except HistoryError (List Commit) → σ → Prop
  | noBase {e : HistoryError} {after : σ} :
      g.Visits [] pushUnseen [] [base] state (.error e) after →
      RangeRun g base head state (.error e) after
  | noHead {excluded : List String} {e : HistoryError} {mid after : σ} :
      g.Visits [] pushUnseen [] [base] state (.ok excluded) mid →
      g.Visits excluded pushAll [] [head] mid (.error e) after →
      RangeRun g base head state (.error e) after
  | listed {excluded seen hashes : List String} {entries : List (String × Commit)}
      {commits : List Commit} {mid after : σ} :
      g.Visits [] pushUnseen [] [base] state (.ok excluded) mid →
      g.Visits excluded pushAll [] [head] mid (.ok seen) after →
      (entries.map Prod.fst).Perm seen → Topological.Ordered entries hashes commits →
      RangeRun g base head state (.ok commits) after

theorem commitRangeBy_run {arrange : List (String × Commit) → List (String × Commit)}
    (harrange : ∀ entries, (arrange entries).Perm entries) (base head : String) (state : σ) :
    g.RangeRun base head state (g.commitRangeBy arrange base head state).1
      (g.commitRangeBy arrange base head state).2 := by
  have hbase := ancestors_visits (g := g) base state
  rw [commitRangeBy, Access.bind_apply]
  rcases hancestors : g.ancestors base state with ⟨e | excluded, mid⟩ <;> rw [hancestors] at hbase
  · exact .noBase hbase
  have hhead := collectRange_visits (g := g) excluded [] [head] mid
  simp only [Access.bind_apply]
  rcases hrange : g.collectRange excluded [] [head] mid with ⟨e | included, after⟩ <;>
    rw [hrange] at hhead
  · exact .noHead hbase hhead
  have hkeys : ((arrange included).map Prod.fst).Perm (included.map Prod.fst) :=
    (harrange included).map Prod.fst
  obtain ⟨hashes, hordered⟩ :=
    Topological.exists_ordered (hkeys.nodup_iff.2 (hhead.nodup List.nodup_nil))
  exact .listed hbase hhead hkeys hordered

end ReleaseAudit.CommitGraph
