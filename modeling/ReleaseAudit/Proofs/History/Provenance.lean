import ReleaseAudit.History.Provenance
import ReleaseAudit.Proofs.History.MergeBase
import ReleaseAudit.Proofs.History.Range
import ReleaseAudit.Proofs.History.Repository

/-!
# What a resolution returns

The commits of a provenance are listed against the merge base. Since the single best common ancestor
has all common ancestors in its history, they are the commits that the new revision reaches and the
old one does not.
-/

namespace ReleaseAudit

namespace CommitStore

variable {σ : Type} {s : CommitStore σ} {state after : σ}

theorem accessing_eq_ok_iff {α : Type} {act : Access σ α} {a : α} :
    s.accessing act state = (.ok a, after) ↔ act state = (.ok a, after) := by
  unfold accessing
  rcases act state with ⟨e | b, mid⟩ <;> constructor <;> intro h <;> cases h <;> rfl

/-- A merge base is resolved when the store reports a single one. -/
theorem merging_mergeBase_eq_ok_iff {a b base : String} :
    s.merging (s.mergeBase [a, b]) state = (.ok base, after) ↔
      s.mergeBases a b state = (.ok [base], after) := by
  unfold merging mergeBase
  constructor
  · intro h
    rcases hact : s.mergeBases a b state with ⟨e | bases, mid⟩ <;> simp only [hact] at h
    · cases h
    · match bases, h with
      | [base], h => cases h; rfl
      | [], h => cases h
      | _ :: _ :: _, h => cases h
  · intro h
    simp only [h]

/-- The steps of a resolution. -/
theorem resolve_eq_ok_iff {options : ResolverOptions} {old new : String} {p : Provenance}
    {branches : BranchSet} :
    s.resolve options old new state = (.ok (p, branches), after) ↔
      ∃ base s₁ s₂ s₃ s₄,
        s.resolveRevision options old state = (.ok base, s₁) ∧
        s.resolveRevision options new s₁ = (.ok p.head, s₂) ∧
        s.mergeBases base p.head s₂ = (.ok [p.mergeBase], s₃) ∧
        s.commitRange p.mergeBase p.head s₃ = (.ok p.commits, s₄) ∧
        s.findBranches options p.head s₄ = (.ok branches, after) := by
  unfold resolve
  simp only [Access.bind_eq_ok_iff, merging_mergeBase_eq_ok_iff, accessing_eq_ok_iff]
  constructor
  · rintro ⟨base, s₁, hold, head, s₂, hnew, mergeBase, s₃, hmerge, commits, s₄, hcommits, found, s₅,
      hfound, h⟩
    cases h
    exact ⟨base, s₁, s₂, s₃, s₄, hold, hnew, hmerge, hcommits, hfound⟩
  · rintro ⟨base, s₁, s₂, s₃, s₄, hold, hnew, hmerge, hcommits, hfound⟩
    exact ⟨base, s₁, hold, p.head, s₂, hnew, p.mergeBase, s₃, hmerge, p.commits, s₄, hcommits,
      branches, after, hfound, rfl⟩

end CommitStore

namespace MemoryRepository

variable {r : MemoryRepository}

theorem mergeBases_eq_ok {a b : String} {bases : List String}
    (h : r.store.mergeBases a b () = (.ok bases, ())) : r.history.BestAncestors a b bases := by
  have hensures := (CommitGraph.mergeBases_ensures r.graph_serves a b () trivial).1
  change r.graph.mergeBases a b () = (.ok bases, ()) at h
  simpa [h] using hensures

theorem commitRange_eq_ok {base head : String} {commits : List Commit} (hacyclic : r.history.Acyclic)
    (h : r.store.commitRange base head () = (.ok commits, ())) :
    CommitGraph.IsRange r.history base head commits := by
  have hensures := (CommitGraph.commitRange_ensures r.graph_serves hacyclic base head () trivial).1
  change r.graph.commitRange base head () = (.ok commits, ()) at h
  simpa [h] using hensures

end MemoryRepository

theorem CommitGraph.IsRange.hashes {h : History} {base head : String} {commits : List Commit}
    (hnamed : h.Named) (hrange : CommitGraph.IsRange h base head commits) :
    (commits.map Commit.hash).Nodup ∧
      ∀ x, x ∈ commits.map Commit.hash ↔ h.Reaches head x ∧ ¬ h.Reaches base x := by
  obtain ⟨entries, hperm, hnodup, hserved, hmem⟩ := hrange
  have hhashes : (commits.map Commit.hash).Perm (entries.map Prod.fst) := by
    have hnames : (entries.map Prod.snd).map Commit.hash = entries.map Prod.fst := by
      rw [List.map_map]
      exact List.map_congr_left fun entry hentry ↦ hnamed _ _ (hserved entry hentry)
    exact hnames ▸ hperm.map Commit.hash
  exact ⟨hhashes.nodup_iff.2 hnodup, fun x ↦ by rw [hhashes.mem_iff, hmem]⟩

/-- The provenance tells what the commit `new` adds to the history of `old`. -/
structure Provenance.Between (p : Provenance) (h : History) (old new : String) : Prop where
  head_eq : p.head = new
  nodup : (p.commits.map Commit.hash).Nodup
  mem_iff : ∀ x, x ∈ p.commits.map Commit.hash ↔ h.Reaches new x ∧ ¬ h.Reaches old x
  old_reaches : h.Reaches old p.mergeBase
  new_reaches : h.Reaches new p.mergeBase
  common_reached : ∀ x, h.Reaches old x → h.Reaches new x → h.Reaches p.mergeBase x
  /-- Leaving out the history of the merge base leaves out all of the old history. -/
  base_iff_old : ∀ x, h.Reaches new x → (h.Reaches p.mergeBase x ↔ h.Reaches old x)
  eq_nil_iff : p.commits = [] ↔ h.Reaches old new

namespace MemoryRepository

variable {r : MemoryRepository}

/-- A resolution lists the commits that the new revision has in its history and the old one has not,
although it only leaves out those of the merge base. -/
theorem resolve_between (hbuilt : r.Built) (hacyclic : r.history.Acyclic)
    {options : ResolverOptions} {old new : String} {p : Provenance} {branches : BranchSet}
    (hresolve : r.store.resolve options old new () = (.ok (p, branches), ())) :
    ∃ o n, r.store.resolveRevision options old () = (.ok o, ()) ∧
      r.store.resolveRevision options new () = (.ok n, ()) ∧ p.Between r.history o n := by
  obtain ⟨o, s₁, s₂, s₃, s₄, hold, hnew, hmerge, hrange, -⟩ :=
    CommitStore.resolve_eq_ok_iff.1 hresolve
  obtain ⟨hnodup, hmem⟩ := (commitRange_eq_ok hacyclic hrange).hashes hbuilt.named
  have hcommon (x : String) : r.history.Common o p.head x ↔ r.history.Reaches p.mergeBase x :=
    (mergeBases_eq_ok hmerge).reaches_common hacyclic
  have hbase : r.history.Common o p.head p.mergeBase := (hcommon _).2 (History.Reaches.refl _)
  have hexcluded (x : String) (hx : r.history.Reaches p.head x) :
      r.history.Reaches p.mergeBase x ↔ r.history.Reaches o x := by
    calc
      r.history.Reaches p.mergeBase x ↔ r.history.Common o p.head x := (hcommon x).symm
      _ ↔ r.history.Reaches o x := and_iff_left hx
  have hlisted (x : String) : x ∈ p.commits.map Commit.hash ↔
      r.history.Reaches p.head x ∧ ¬ r.history.Reaches o x := by
    calc
      x ∈ p.commits.map Commit.hash ↔
          r.history.Reaches p.head x ∧ ¬ r.history.Reaches p.mergeBase x := hmem x
      _ ↔ r.history.Reaches p.head x ∧ ¬ r.history.Reaches o x :=
        and_congr_right fun hx ↦ not_congr (hexcluded x hx)
  have hempty : p.commits = [] ↔ r.history.Reaches o p.head := by
    rw [← List.map_eq_nil_iff (f := Commit.hash), List.eq_nil_iff_forall_not_mem]
    constructor
    · intro hnone
      by_contra hnot
      exact hnone p.head ((hlisted p.head).2 ⟨History.Reaches.refl _, hnot⟩)
    · intro hreach x hx
      obtain ⟨hn, ho⟩ := (hlisted x).1 hx
      exact ho (hreach.trans hn)
  exact ⟨o, p.head, hold, hnew,
    { head_eq := rfl, nodup := hnodup, mem_iff := hlisted, old_reaches := hbase.1,
      new_reaches := hbase.2, common_reached := fun x ho hn ↦ (hcommon x).1 ⟨ho, hn⟩,
      base_iff_old := hexcluded, eq_nil_iff := hempty }⟩

/-- Two branches from one root, joined by a merge. -/
def merged : MemoryRepository :=
  ((((({ location := "merged" } : MemoryRepository).addCommit "root" [] "start").addCommit
    "left" ["root"] "one side").addCommit "right" ["root"] "other side").addCommit
    "joint" ["left", "right"] "merge").setRef "refs/tags/v1" "left"

def mergedProvenance : Provenance where
  mergeBase := "left"
  head := "joint"
  commits := [⟨"joint", "merge", ["left", "right"], defaultAuthor⟩,
    ⟨"right", "other side", ["root"], defaultAuthor⟩]

theorem merged_resolve :
    merged.store.resolve {} "v1" "joint" () = (.ok (mergedProvenance, ⟨"joint", []⟩), ()) := by
  obtain ⟨_, hroot⟩ := merged.exists_fetch_eq "root"
    ⟨"root", "start", [], defaultAuthor⟩ rfl
  obtain ⟨_, hleft⟩ := merged.exists_fetch_eq "left"
    ⟨"left", "one side", ["root"], defaultAuthor⟩ rfl
  obtain ⟨_, hright⟩ := merged.exists_fetch_eq "right"
    ⟨"right", "other side", ["root"], defaultAuthor⟩ rfl
  obtain ⟨_, hjoint⟩ := merged.exists_fetch_eq "joint"
    ⟨"joint", "merge", ["left", "right"], defaultAuthor⟩ rfl
  have hold : merged.graph.ancestors "left" = pure ["root", "left"] := by
    simp [CommitGraph.ancestors, CommitGraph.collectAncestors, hroot, hleft]
  have hnew : merged.graph.ancestors "joint" = pure ["left", "root", "right", "joint"] := by
    simp [CommitGraph.ancestors, CommitGraph.collectAncestors, hroot, hleft, hright, hjoint]
  have hbases : merged.graph.mergeBases "left" "joint" = pure ["left"] := by
    simp [CommitGraph.mergeBases, CommitGraph.collectBreadthFirst, CommitGraph.parentsOf,
      CommitGraph.sortHashes, hroot, hleft, hold, hnew]
  have hrange : merged.graph.commitRange "left" "joint" = pure mergedProvenance.commits := by
    simp [CommitGraph.commitRange, CommitGraph.collectRange, hright, hjoint, hold]
    rfl
  exact CommitStore.resolve_eq_ok_iff.2 ⟨"left", (), (), (), (), rfl, rfl, congrFun hbases (),
    congrFun hrange (), rfl⟩

theorem merged_acyclic : merged.history.Acyclic :=
  acyclic_of_rank (fun hash ↦ if hash = "joint" then 2 else if hash = "root" then 0 else 1)
    (by decide +kernel)

theorem merged_built : merged.Built :=
  .setRef _ _ (.insert _ (.insert _ (.insert _ (.insert _ (.empty _)))))

theorem merged_between : ∃ o n, merged.store.resolveRevision {} "v1" () = (.ok o, ()) ∧
    merged.store.resolveRevision {} "joint" () = (.ok n, ()) ∧
    mergedProvenance.Between merged.history o n :=
  resolve_between merged_built merged_acyclic merged_resolve

end MemoryRepository

end ReleaseAudit
