import ReleaseAudit.Proofs.History.Provenance
import ReleaseAudit.Proofs.History.Reachability

/-!
# The branches that contain a commit

All branches are asked with the same notes. Since notes do not change an answer, the branches found
are those from whose heads the commit is reached.
-/

namespace ReleaseAudit

/-- The answer to the question whether `target` is `start` or in its history: that of the plain walk,
which is a failure when there is a missing commit in front of the target. -/
structure History.Answered (h : History) (target start : String) (answer : Except HistoryError Bool) :
    Prop where
  plain : h.Answers target start answer
  reaches_iff : ∀ b, answer = .ok b → (b = true ↔ h.Reaches start target)
  missing : ∀ e, answer = .error e →
    ∃ m, m ≠ target ∧ h.ReachesBefore target start m ∧ h m = .error e
  error_iff : (∃ e, answer = .error e) ↔
    ∃ m, m ≠ target ∧ h.ReachesBefore target start m ∧ h.Missing m

theorem History.Answers.answered {h : History} {target start : String}
    {answer : Except HistoryError Bool} (hanswer : h.Answers target start answer) :
    h.Answered target start answer where
  plain := hanswer
  reaches_iff _ hb := hanswer.reaches_iff hb
  missing _ he := hanswer.missing_of_error he
  error_iff := hanswer.exists_error_iff

namespace CommitStore

variable {σ : Type} {s : CommitStore σ} {valid : σ → Prop} {h : History} {target : String}
  {answer : String → Except HistoryError Bool}

open scoped Classical in
theorem containing_eq_ok (hs : s.Serves valid h) (hacyclic : h.Acyclic)
    (hanswer : ∀ hash, h.Answers target hash (answer hash)) {heads found : List Branch}
    {r : Reachability} {state : σ} {after : Reachability × σ} (hr : r.Agrees target answer)
    (hstate : valid state) (hrun : s.containing heads (r, state) = (.ok found, after)) :
    found = heads.filter fun head ↦ h.Reaches head.hash target := by
  induction heads generalizing found r state after with
  | nil => cases hrun; rfl
  | cons head rest ih =>
    rw [containing, Access.bind_eq_ok_iff] at hrun
    obtain ⟨b, ⟨r', state'⟩, hreaches, hrest⟩ := hrun
    obtain ⟨hb, hr', hstate'⟩ :=
      CommitGraph.reaches_answers hs hacyclic hanswer head.hash hr hstate
    rw [hreaches] at hb hr' hstate'
    obtain ⟨more, last, hmore, hfound⟩ := Access.bind_eq_ok_iff.1 hrest
    cases hfound
    have hiff := (hanswer head.hash).reaches_iff hb.symm
    rw [List.filter_cons, ih hr' hstate' hmore]
    simp only [decide_eq_true_iff, hiff]

open scoped Classical in
/-- Queries about one target do not disturb each other, and branches are kept exactly when their heads
reach the commit. -/
theorem reaches_with_notes (hs : s.Serves valid h)
    (hbranches : ∀ remote, Access.Ensures valid (s.branches remote) fun _ ↦ True)
    (hacyclic : h.Acyclic) (target : String) {state : σ} (hstate : valid state) :
    (∀ queries, s.answers queries (.toward target, state) =
      queries.map fun start ↦ (s.reaches start (.toward target, state)).1) ∧
    (∀ start, h.Answered target start (s.reaches start (.toward target, state)).1) ∧
    ∀ options found after, s.findBranches options target state = (.ok found, after) →
      ∃ heads mid, s.branches options.remoteName state = (.ok heads, mid) ∧
        found = ⟨target, heads.filter fun head ↦ h.Reaches head.hash target⟩ := by
  choose answer hanswer using History.Answers.exists_of_acyclic hacyclic
    (fun _ _ hp ↦ hs.mem_known hstate hp) target
  have hfresh (start : String) : (s.reaches start (.toward target, state)).1 = answer start :=
    (CommitGraph.reaches_answers hs hacyclic hanswer start Reachability.agrees_toward hstate).1
  refine ⟨fun queries ↦ ?_, fun start ↦ ?_, fun options found after hfind ↦ ?_⟩
  · simp only [hfresh]
    exact CommitGraph.answers_eq_map hs hacyclic hanswer queries Reachability.agrees_toward hstate
  · rw [hfresh]
    exact (hanswer start).answered
  · unfold findBranches at hfind
    simp only [Access.bind_eq_ok_iff, accessing_eq_ok_iff] at hfind
    obtain ⟨heads, mid, hheads, branches, last, hcontaining, hpure⟩ := hfind
    cases hpure
    have hmid : valid mid := by
      simpa only [hheads] using (hbranches options.remoteName state hstate).2
    rcases hrun : s.containing heads (.toward target, mid) with ⟨result, notes, final⟩
    simp only [hrun] at hcontaining
    cases hcontaining
    exact ⟨heads, mid, hheads, by
      rw [containing_eq_ok hs hacyclic hanswer Reachability.agrees_toward hmid hrun]⟩

end CommitStore

namespace MemoryRepository

/-- Two branches, one of which goes back to a commit that is gone. -/
def torn : MemoryRepository :=
  (((({ location := "torn" } : MemoryRepository).addCommit "base" [] "start").addCommit
    "main" ["base"] "on").addCommit "side" ["gone", "base"] "aside").setRef "refs/heads/main" "main"

theorem torn_acyclic : torn.history.Acyclic :=
  acyclic_of_rank (fun hash ↦ if hash = "main" ∨ hash = "side" then 1 else 0) (by decide +kernel)

theorem torn_findBranches :
    torn.store.findBranches {} "base" () = (.ok ⟨"base", [⟨"main", "main"⟩]⟩, ()) := by
  have hmain : torn.graph.fetch "main" () =
      (.ok ⟨⟨"main", "on", ["base"], defaultAuthor⟩, by decide +kernel⟩, ()) := rfl
  have hheads : torn.store.branches "origin" () = (.ok [⟨"main", "main"⟩], ()) := rfl
  have hreaches : torn.graph.reaches "main" (.toward "base", ()) =
      (.ok true, ⟨"base", [("main", true), ("base", true)]⟩, ()) := by
    rw [CommitGraph.reaches, Access.bind_apply, CommitGraph.explore_apply]
    simp [hmain, CommitGraph.exploreAll_cons_apply, CommitGraph.explore_apply,
      CommitGraph.exploreAll, Reachability.add, Reachability.toward]
    rfl
  have hcontaining : torn.store.containing [⟨"main", "main"⟩] (.toward "base", ()) =
      (.ok [⟨"main", "main"⟩], ⟨"base", [("main", true), ("base", true)]⟩, ()) :=
    Access.bind_eq_ok_iff.2 ⟨true, _, hreaches, rfl⟩
  refine Access.bind_eq_ok_iff.2 ⟨_, (), CommitStore.accessing_eq_ok_iff.2 hheads,
    Access.bind_eq_ok_iff.2 ⟨_, (), CommitStore.accessing_eq_ok_iff.2 ?_, rfl⟩⟩
  rw [hcontaining]

open scoped Classical in
theorem torn_reaches :
    torn.store.answers ["side", "main", "side"] (.toward "base", ()) =
      ["side", "main", "side"].map (fun start ↦ (torn.store.reaches start (.toward "base", ())).1) ∧
    torn.history.Answered "base" "side" (torn.store.reaches "side" (.toward "base", ())).1 ∧
    ∃ heads mid, torn.store.branches "origin" () = (.ok heads, mid) ∧
      (⟨"base", [⟨"main", "main"⟩]⟩ : BranchSet) =
        ⟨"base", heads.filter fun head ↦ torn.history.Reaches head.hash "base"⟩ := by
  obtain ⟨hqueries, hstart, hfind⟩ := CommitStore.reaches_with_notes (s := torn.store)
    torn.graph_serves (fun _ _ _ ↦ ⟨trivial, trivial⟩) torn_acyclic "base" trivial
  exact ⟨hqueries _, hstart "side", hfind {} _ _ torn_findBranches⟩

end MemoryRepository

end ReleaseAudit
