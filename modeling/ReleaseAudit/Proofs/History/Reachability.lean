import ReleaseAudit.History.Provenance
import ReleaseAudit.Proofs.History.PlainWalk
import ReleaseAudit.Proofs.History.Repository

/-!
# Notes about reachability

A walk that takes notes answers as the plain walk does. What it does is said once, as a relation on the
history that knows neither the graph nor its states. Notes are taken only of commits whose parents
have all been noted, so that what is noted is right at any time, also when a missing commit ends the
walk half-way, and the next walk may rely on it.
-/

namespace ReleaseAudit

namespace Reachability

variable {r : Reachability} {target hash x : String} {b reached : Bool}
  {answer : String → Except HistoryError Bool}

theorem add_note? : (r.add hash reached).note? x = if x = hash then some reached else r.note? x := by
  unfold note? add
  rw [List.lookup_cons]
  split <;> simp_all

theorem isSome_add_note? (hx : (r.note? x).isSome) : ((r.add hash reached).note? x).isSome := by
  rw [add_note?]
  split
  · rfl
  · exact hx

/-- The notes are about `target` and say what `answer` says. -/
structure Agrees (r : Reachability) (target : String)
    (answer : String → Except HistoryError Bool) : Prop where
  target_eq : r.target = target
  answer_eq : ∀ hash b, r.note? hash = some b → answer hash = .ok b

theorem agrees_toward : (toward target).Agrees target answer where
  target_eq := rfl
  answer_eq _ _ hnote := by cases hnote

theorem Agrees.add (hr : r.Agrees target answer) (hanswer : answer hash = .ok reached) :
    (r.add hash reached).Agrees target answer where
  target_eq := hr.target_eq
  answer_eq x b hnote := by
    rw [add_note?] at hnote
    split at hnote
    case isTrue heq =>
      cases hnote
      rw [heq, hanswer]
    case isFalse => exact hr.answer_eq x b hnote

end Reachability

/-! ## Walks that take notes -/

namespace History

variable {h : History} {target hash : String} {hashes : List String} {r after : Reachability}
  {answer : String → Except HistoryError Bool} {result : Except HistoryError Unit}

/-- Looking at some commits one after the other: what comes of it, and the notes before and after. -/
inductive Explores (h : History) :
    List String → Reachability → Except HistoryError Unit → Reachability → Prop
  | nil {r : Reachability} : Explores h [] r (.ok ()) r
  | noted {r : Reachability} {hash : String} : (r.note? hash).isSome → Explores h [hash] r (.ok ()) r
  | target {r : Reachability} {hash : String} : ¬ (r.note? hash).isSome → hash = r.target →
      Explores h [hash] r (.ok ()) (r.add hash true)
  | missing {r : Reachability} {hash : String} {e : HistoryError} : ¬ (r.note? hash).isSome →
      hash ≠ r.target → h hash = .error e → Explores h [hash] r (.error e) r
  | failed {r after : Reachability} {hash : String} {commit : Commit} {e : HistoryError} :
      ¬ (r.note? hash).isSome → hash ≠ r.target → h hash = .ok commit →
      Explores h commit.parents r (.error e) after → Explores h [hash] r (.error e) after
  | recorded {r after : Reachability} {hash : String} {commit : Commit} :
      ¬ (r.note? hash).isSome → hash ≠ r.target → h hash = .ok commit →
      Explores h commit.parents r (.ok ()) after →
      Explores h [hash] r (.ok ())
        (after.add hash (commit.parents.any fun p ↦ after.note? p == some true))
  | stop {r after : Reachability} {hash : String} {rest : List String} {e : HistoryError} :
      Explores h [hash] r (.error e) after → Explores h (hash :: rest) r (.error e) after
  | next {r mid after : Reachability} {hash : String} {rest : List String}
      {result : Except HistoryError Unit} : Explores h [hash] r (.ok ()) mid →
      Explores h rest mid result after → Explores h (hash :: rest) r result after

/-- The notes about the parents give the answer about a commit. -/
theorem any_note_eq {parents : List String} {b : Bool}
    (hr : r.Agrees target answer) (hnoted : ∀ p ∈ parents, (r.note? p).isSome)
    (hb : askAll answer parents = .ok b) :
    (parents.any fun p ↦ r.note? p == some true) = b := by
  rw [Bool.eq_iff_iff, (askAll_eq_ok hb).2, List.any_eq_true]
  refine exists_congr fun p ↦ and_congr_right fun hp ↦ ?_
  obtain ⟨reached, hreached⟩ := Option.isSome_iff_exists.1 (hnoted p hp)
  rw [hr.answer_eq p reached hreached, hreached]
  simp

namespace Explores

variable (hrun : h.Explores hashes r result after)

include hrun

theorem keeps {x : String} (hx : (r.note? x).isSome) : (after.note? x).isSome := by
  induction hrun with
  | nil => exact hx
  | noted _ => exact hx
  | target _ _ => exact Reachability.isSome_add_note? hx
  | missing _ _ _ => exact hx
  | failed _ _ _ _ ih => exact ih hx
  | recorded _ _ _ _ ih => exact Reachability.isSome_add_note? (ih hx)
  | stop _ ih => exact ih hx
  | next _ _ ihfirst ihrest => exact ihrest (ihfirst hx)

theorem target_eq : after.target = r.target := by
  induction hrun with
  | recorded _ _ _ _ ih => exact ih
  | failed _ _ _ _ ih => exact ih
  | stop _ ih => exact ih
  | next _ _ ihfirst ihrest => exact ihrest.trans ihfirst
  | _ => rfl

theorem noted_of_ok (hok : result = .ok ()) : ∀ x ∈ hashes, (after.note? x).isSome := by
  induction hrun with
  | nil => simp
  | noted hnoted => simpa using hnoted
  | target _ _ => simp [Reachability.add_note?]
  | missing _ _ _ => cases hok
  | failed _ _ _ _ _ => cases hok
  | recorded _ _ _ _ _ => simp [Reachability.add_note?]
  | stop _ _ => cases hok
  | @next r mid after hash rest result _ hrest ihfirst ihrest =>
    have hhead : (mid.note? hash).isSome := ihfirst rfl hash List.mem_cons_self
    exact List.forall_mem_cons.2 ⟨hrest.keeps hhead, ihrest hok⟩

end Explores

/-- What a walk returns and leaves when its notes agreed with the plain walk. They still do, however it
ends. -/
structure Explored (target : String) (answer : String → Except HistoryError Bool)
    (hashes : List String) (result : Except HistoryError Unit) (after : Reachability) : Prop where
  result_eq : result = (askAll answer hashes).map fun _ ↦ ()
  agrees : after.Agrees target answer

namespace Explored

theorem askAll_eq_error {e : HistoryError} (hrun : Explored target answer hashes (.error e) after) :
    askAll answer hashes = .error e := by
  have hresult := hrun.result_eq
  cases hall : askAll answer hashes <;> rw [hall] at hresult <;> cases hresult
  rfl

theorem exists_askAll_eq_ok (hrun : Explored target answer hashes (.ok ()) after) :
    ∃ b, askAll answer hashes = .ok b := by
  have hresult := hrun.result_eq
  cases hall : askAll answer hashes with
  | error e => rw [hall] at hresult; cases hresult
  | ok b => exact ⟨b, rfl⟩

theorem eq_error {e : HistoryError} (hrun : Explored target answer [hash] (.error e) after) :
    answer hash = .error e :=
  (askAll_singleton hash).symm.trans hrun.askAll_eq_error

theorem of_ok {b : Bool} (hb : answer hash = .ok b) (hr : r.Agrees target answer) :
    Explored target answer [hash] (.ok ()) r where
  result_eq := by rw [askAll_singleton, hb]; rfl
  agrees := hr

theorem of_error {e : HistoryError} (he : askAll answer hashes = .error e)
    (hr : r.Agrees target answer) : Explored target answer hashes (.error e) r where
  result_eq := by rw [he]; rfl
  agrees := hr

end Explored

theorem Explores.explored (hrun : h.Explores hashes r result after)
    (hanswer : ∀ hash, h.Answers target hash (answer hash)) (hr : r.Agrees target answer) :
    Explored target answer hashes result after := by
  -- The answer about a commit is put together from those about its parents.
  have hask {hash : String} {commit : Commit} (hne : hash ≠ target) (hc : h hash = .ok commit) :
      answer hash = askAll answer commit.parents :=
    (hanswer hash).deterministic (.walked answer hne hc fun p _ ↦ hanswer p)
  induction hrun with
  | nil => exact ⟨rfl, hr⟩
  | @noted r hash hnoted =>
    obtain ⟨b, hb⟩ := Option.isSome_iff_exists.1 hnoted
    exact .of_ok (hr.answer_eq hash b hb) hr
  | @target r hash _ heq =>
    rw [hr.target_eq] at heq
    have hfound : answer hash = .ok true := (hanswer hash).deterministic (heq ▸ .found)
    exact .of_ok hfound (hr.add hfound)
  | @missing r hash e _ hne he =>
    rw [hr.target_eq] at hne
    have hmissing : answer hash = .error e := (hanswer hash).deterministic (.missing hne he)
    exact .of_error ((askAll_singleton hash).trans hmissing) hr
  | @failed r after hash commit e _ hne hc _ ih =>
    rw [hr.target_eq] at hne
    have hparents := ih hr
    have hfailed : answer hash = .error e := (hask hne hc).trans hparents.askAll_eq_error
    exact .of_error ((askAll_singleton hash).trans hfailed) hparents.agrees
  | @recorded r after hash commit _ hne hc hwalk ih =>
    rw [hr.target_eq] at hne
    have hparents := ih hr
    obtain ⟨b, hb⟩ := hparents.exists_askAll_eq_ok
    have hfound : answer hash = .ok b := (hask hne hc).trans hb
    rw [any_note_eq hparents.agrees (hwalk.noted_of_ok rfl) hb]
    exact .of_ok hfound (hparents.agrees.add hfound)
  | stop _ ih =>
    have hfirst := ih hr
    exact .of_error (askAll_cons_of_error hfirst.eq_error) hfirst.agrees
  | @next r mid after hash rest result _ _ ihfirst ihrest =>
    have hfirst := ihfirst hr
    have hmore := ihrest hfirst.agrees
    obtain ⟨b, hb⟩ := hfirst.exists_askAll_eq_ok
    rw [askAll_singleton] at hb
    refine ⟨?_, hmore.agrees⟩
    rw [hmore.result_eq, askAll_cons_of_ok hb]
    cases askAll answer rest <;> rfl

end History

/-! ## The walk of a graph -/

namespace Noting

variable {σ α : Type}

theorem notes_apply (r : Reachability) (state : σ) :
    (Noting.notes : Noting σ Reachability) (r, state) = (.ok r, r, state) := rfl

theorem access_apply (act : Access σ α) (r : Reachability) (state : σ) :
    Noting.access act (r, state) = ((act state).1, r, (act state).2) := rfl

end Noting

namespace CommitGraph

open Noting

variable {σ : Type} {g : CommitGraph σ} {valid : σ → Prop} {h : History} {target : String}
  {answer : String → Except HistoryError Bool}

theorem explore_apply (above : List String) (hash : String) (r : Reachability) (state : σ) :
    g.explore above hash (r, state) =
      if (r.note? hash).isSome then (.ok (), r, state)
      else if hash = r.target then (.ok (), r.add hash true, state)
      else if hash ∈ above then (.error (.cyclic hash), r, state)
      else
        match g.fetch hash state with
        | (.error e, state) => (.error e, r, state)
        | (.ok ⟨commit, _⟩, state) =>
          match g.exploreAll (hash :: above) commit.parents (r, state) with
          | (.error e, after) => (.error e, after)
          | (.ok (), r, state) =>
            (.ok (), r.add hash (commit.parents.any fun p ↦ r.note? p == some true), state) := by
  rw [explore, Access.bind_apply]
  simp only [notes_apply]
  split
  · rfl
  split
  · rfl
  split
  · rfl
  rw [Access.bind_apply, access_apply]
  rcases g.fetch hash state with ⟨e | ⟨commit, hk⟩, mid⟩
  · rfl
  simp only [Access.bind_apply]
  rcases g.exploreAll (hash :: above) commit.parents (r, mid) with ⟨e | _, after⟩ <;> rfl

theorem exploreAll_nil_apply (above : List String) (state : Reachability × σ) :
    g.exploreAll above [] state = (.ok (), state) := by
  rw [exploreAll]
  rfl

theorem exploreAll_cons_apply (above : List String) (hash : String) (rest : List String)
    (state : Reachability × σ) :
    g.exploreAll above (hash :: rest) state =
      match g.explore above hash state with
      | (.error e, after) => (.error e, after)
      | (.ok (), after) => g.exploreAll above rest after := by
  rw [exploreAll, Access.bind_apply]
  rcases g.explore above hash state with ⟨e | _, after⟩ <;> rfl

/-- A commit that can be looked at leads to its parents, which come after all commits above it. -/
theorem precedes_parent {above : List String} {hash : String} {commit : Commit}
    (hc : h hash = .ok commit) (habove : ∀ a ∈ above, h.Precedes a hash) :
    ∀ p ∈ commit.parents, ∀ a ∈ hash :: above, h.Precedes a p := by
  intro p hp
  have hparent : h.Parent hash p := (History.parent_iff hc).2 hp
  exact List.forall_mem_cons.2
    ⟨Relation.TransGen.single hparent, fun a ha ↦ Relation.TransGen.tail (habove a ha) hparent⟩

/-- Without cycles no commit is found above itself, and only the history decides on a walk. -/
theorem explores (hg : g.Serves valid h) (hacyclic : h.Acyclic) :
    (∀ above hash, ∀ r state, (∀ a ∈ above, h.Precedes a hash) → valid state →
      h.Explores [hash] r (g.explore above hash (r, state)).1
          (g.explore above hash (r, state)).2.1 ∧
        valid (g.explore above hash (r, state)).2.2) ∧
    ∀ above hashes, ∀ r state, (∀ p ∈ hashes, ∀ a ∈ above, h.Precedes a p) → valid state →
      h.Explores hashes r (g.exploreAll above hashes (r, state)).1
          (g.exploreAll above hashes (r, state)).2.1 ∧
        valid (g.exploreAll above hashes (r, state)).2.2 := by
  refine explore.mutual_induct g _ _ ?explore ?nil ?cons
  case nil =>
    intro above r state _ hstate
    rw [exploreAll_nil_apply]
    exact ⟨.nil, hstate⟩
  case cons =>
    intro above hash rest ihhead ihrest r state habove hstate
    obtain ⟨hhead, htail⟩ := List.forall_mem_cons.1 habove
    have hfirst := ihhead r state hhead hstate
    rw [exploreAll_cons_apply]
    rcases hrun : g.explore above hash (r, state) with ⟨e | _, notes, mid⟩ <;> rw [hrun] at hfirst
    · exact ⟨.stop hfirst.1, hfirst.2⟩
    · obtain ⟨hmore, hvalid⟩ := ihrest notes mid htail hfirst.2
      exact ⟨.next hfirst.1 hmore, hvalid⟩
  case explore =>
    intro above hash ih r state habove hstate
    rw [explore_apply]
    by_cases hnoted : (r.note? hash).isSome
    · rw [if_pos hnoted]
      exact ⟨.noted hnoted, hstate⟩
    rw [if_neg hnoted]
    by_cases htarget : hash = r.target
    · rw [if_pos htarget]
      exact ⟨.target hnoted htarget, hstate⟩
    rw [if_neg htarget]
    have ha : hash ∉ above := fun hmem ↦ hacyclic hash (habove hash hmem)
    rw [if_neg ha]
    obtain ⟨hserved, hvalid⟩ := hg hash state hstate
    rcases hfetch : g.fetch hash state with ⟨e | ⟨commit, hk⟩, mid⟩ <;> rw [hfetch] at hserved hvalid
    · exact ⟨.missing hnoted htarget hserved.symm, hvalid⟩
    have hc : h hash = .ok commit := hserved.symm
    have hparents := ih ha commit hk r mid (precedes_parent hc habove) hvalid
    dsimp only
    rcases hrun : g.exploreAll (hash :: above) commit.parents (r, mid) with ⟨e | _, notes, last⟩ <;>
      rw [hrun] at hparents
    · exact ⟨.failed hnoted htarget hc hparents.1, hparents.2⟩
    · exact ⟨.recorded hnoted htarget hc hparents.1, hparents.2⟩

theorem reaches_apply (start : String) (state : Reachability × σ) :
    g.reaches start state =
      match g.explore [] start state with
      | (.error e, after) => (.error e, after)
      | (.ok (), after) => (.ok ((after.1.note? start).getD false), after) := by
  rw [reaches, Access.bind_apply]
  rcases g.explore [] start state with ⟨e | _, notes, after⟩ <;> rfl

/-- The answers to some queries about one target, one after the other. The notes are kept, also those
of a query that failed. -/
def answers (g : CommitGraph σ) : List String → Reachability × σ → List (Except HistoryError Bool)
  | [], _ => []
  | start :: rest, state =>
    let (answer, after) := g.reaches start state
    answer :: answers g rest after

theorem reaches_answers (hg : g.Serves valid h) (hacyclic : h.Acyclic)
    (hanswer : ∀ hash, h.Answers target hash (answer hash)) (start : String) {r : Reachability}
    {state : σ} (hr : r.Agrees target answer) (hstate : valid state) :
    (g.reaches start (r, state)).1 = answer start ∧
      (g.reaches start (r, state)).2.1.Agrees target answer ∧
        valid (g.reaches start (r, state)).2.2 := by
  obtain ⟨hexplores, hvalid⟩ := (explores hg hacyclic).1 [] start r state (by simp) hstate
  have hrun := hexplores.explored hanswer hr
  have hnoted := hexplores.noted_of_ok
  rw [reaches_apply]
  rcases hexplore : g.explore [] start (r, state) with ⟨e | _, notes, after⟩ <;>
    rw [hexplore] at hrun hvalid hnoted
  · exact ⟨hrun.eq_error.symm, hrun.agrees, hvalid⟩
  · obtain ⟨b, hb⟩ := Option.isSome_iff_exists.1 (hnoted rfl start List.mem_cons_self)
    refine ⟨?_, hrun.agrees, hvalid⟩
    simp only [hb, hrun.agrees.answer_eq start b hb, Option.getD_some]

theorem answers_eq_map (hg : g.Serves valid h) (hacyclic : h.Acyclic)
    (hanswer : ∀ hash, h.Answers target hash (answer hash)) (queries : List String)
    {r : Reachability} {state : σ} (hr : r.Agrees target answer) (hstate : valid state) :
    g.answers queries (r, state) = queries.map answer := by
  induction queries generalizing r state with
  | nil => rfl
  | cons start rest ih =>
    obtain ⟨hfirst, hr', hstate'⟩ := reaches_answers hg hacyclic hanswer start hr hstate
    rw [List.map_cons, ← hfirst, ← ih hr' hstate']
    rfl

end CommitGraph

end ReleaseAudit
