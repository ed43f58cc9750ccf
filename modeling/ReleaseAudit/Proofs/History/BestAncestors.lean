import ReleaseAudit.Proofs.History.MergeBase
import ReleaseAudit.Proofs.History.Repository

/-!
# The best common ancestors of two commits

Looking for best common ancestors fails exactly when a commit is missing that one of the two reaches.
Otherwise they are listed in ascending order, and the two commits may change places.
-/

namespace ReleaseAudit

namespace History

variable {h : History} {a b : String} {bases : List String}

theorem common_comm {x : String} : h.Common a b x ↔ h.Common b a x := and_comm

theorem best_comm {x : String} : h.Best a b x ↔ h.Best b a x := by
  simp only [Best, common_comm (a := a)]

namespace BestAncestors

variable (hbases : h.BestAncestors a b bases)

include hbases

theorem eq_of_swapped {others : List String} (hothers : h.BestAncestors b a others) :
    bases = others := by
  have hmem (x : String) : x ∈ bases ↔ x ∈ others := by
    rw [hbases.mem_iff, hothers.mem_iff, best_comm]
  have hperm : bases.Perm others :=
    (List.perm_ext_iff_of_nodup hbases.nodup hothers.nodup).2 hmem
  exact hperm.eq_of_pairwise (fun _ _ _ _ ↦ String.le_antisymm) hbases.sorted hothers.sorted

/-- Only commits without a common history have no best common ancestor. -/
theorem eq_nil_iff (hacyclic : h.Acyclic) : bases = [] ↔ ∀ x, ¬ h.Common a b x := by
  rw [List.eq_nil_iff_forall_not_mem]
  constructor
  · intro hnone x hx
    obtain ⟨known, hknown⟩ := hbases.finite
    obtain ⟨base, hbase, _⟩ := exists_best hacyclic hknown hx
    exact hnone base ((hbases.mem_iff base).2 hbase)
  · intro hdisjoint x hx
    exact hdisjoint x ((hbases.mem_iff x).1 hx).1

theorem eq_singleton (hacyclic : h.Acyclic) (hreach : h.Reaches b a) : bases = [a] := by
  have hself : h.Common a b a := ⟨Reaches.refl a, hreach⟩
  have hbest (x : String) : h.Best a b x ↔ x = a := by
    constructor
    · rintro ⟨hcommon, hnone⟩
      rcases hcommon.1.eq_or_precedes with heq | hprec
      · exact heq.symm
      · exact absurd hprec (hnone a hself)
    · rintro rfl
      refine ⟨hself, fun other hother hprec ↦ ?_⟩
      exact hacyclic other (Relation.TransGen.trans_left hprec hother.1)
  apply List.perm_singleton.1
  apply (List.perm_ext_iff_of_nodup hbases.nodup (List.nodup_singleton a)).2
  intro x
  rw [hbases.mem_iff, hbest, List.mem_singleton]

theorem eq_of_reaches {x y : String} (hx : x ∈ bases) (hy : y ∈ bases) (hxy : h.Reaches x y) :
    x = y := by
  have hcommon : h.Common a b x := ((hbases.mem_iff x).1 hx).1
  apply hxy.eq_or_precedes.resolve_right
  exact ((hbases.mem_iff y).1 hy).2 x hcommon

end BestAncestors

/-- The best common ancestors of two commits as a list. -/
structure ListsBest (h : History) (a b : String) (bases : List String) : Prop where
  mem_iff : ∀ x, x ∈ bases ↔ h.Best a b x
  nodup : bases.Nodup
  sorted : bases.Pairwise (· ≤ ·)
  disjoint : bases = [] ↔ ∀ x, ¬ h.Common a b x
  ancestor : h.Reaches b a → bases = [a]
  incomparable : ∀ x ∈ bases, ∀ y ∈ bases, h.Reaches x y → x = y

theorem BestAncestors.listsBest (hacyclic : h.Acyclic) (hbases : h.BestAncestors a b bases) :
    h.ListsBest a b bases where
  mem_iff := hbases.mem_iff
  nodup := hbases.nodup
  sorted := hbases.sorted
  disjoint := hbases.eq_nil_iff hacyclic
  ancestor := hbases.eq_singleton hacyclic
  incomparable _ hx _ hy := hbases.eq_of_reaches hx hy

end History

namespace CommitGraph

variable {σ : Type} {g : CommitGraph σ} {valid : σ → Prop} {h : History} {state state' : σ}
  {a b : String}

theorem sortHashes_eq {hashes sorted : List String} (hperm : hashes.Perm sorted)
    (hsorted : sorted.Pairwise (· ≤ ·)) : sortHashes hashes = sorted := by
  apply List.Perm.eq_of_pairwise (fun _ _ _ _ ↦ String.le_antisymm) (sortHashes_pairwise hashes)
    hsorted
  exact (List.mergeSort_perm hashes _).trans hperm

theorem bestAncestors_of_eq_ok (hg : g.Serves valid h) (hstate : valid state) {bases : List String}
    (hrun : (g.mergeBases a b state).1 = .ok bases) : h.BestAncestors a b bases := by
  have hresult := (mergeBases_ensures hg a b state hstate).1
  rwa [hrun] at hresult

theorem mergeBases_error_iff (hg : g.Serves valid h) (hstate : valid state) :
    (∃ e, (g.mergeBases a b state).1 = .error e) ↔
      ∃ x, (h.Reaches a x ∨ h.Reaches b x) ∧ h.Missing x := by
  constructor
  · rintro ⟨e, he⟩
    have hblocked := (mergeBases_ensures hg a b state hstate).1
    rw [he] at hblocked
    obtain ⟨p, hp, x, hpx, hx⟩ := hblocked
    rcases List.mem_pair.1 hp with rfl | rfl
    · exact ⟨x, .inl hpx, e, hx⟩
    · exact ⟨x, .inr hpx, e, hx⟩
  · rintro ⟨x, hreached, hx⟩
    cases hrun : (g.mergeBases a b state).1 with
    | error e => exact ⟨e, rfl⟩
    | ok bases =>
      have hbases := bestAncestors_of_eq_ok hg hstate hrun
      exact absurd hx (History.not_missing (hbases.present x hreached))

theorem mergeBases_swap (hg : g.Serves valid h) (hstate : valid state) (hstate' : valid state')
    {bases : List String} (hrun : (g.mergeBases a b state).1 = .ok bases) :
    (g.mergeBases b a state').1 = .ok bases := by
  have hbases := bestAncestors_of_eq_ok hg hstate hrun
  cases hrun' : (g.mergeBases b a state').1 with
  | error e =>
    obtain ⟨x, hreached, hx⟩ := (mergeBases_error_iff hg hstate').1 ⟨e, hrun'⟩
    exact absurd hx (History.not_missing (hbases.present x hreached.symm))
  | ok others =>
    rw [hbases.eq_of_swapped (bestAncestors_of_eq_ok hg hstate' hrun')]

/-- Best common ancestors are found unless a commit is missing, and it does not matter which of the two
commits comes first. -/
theorem mergeBases_best (hg : g.Serves valid h) (hacyclic : h.Acyclic) (a b : String)
    (state : σ) (hstate : valid state) :
    ((∃ e, (g.mergeBases a b state).1 = .error e) ↔
      ∃ x, (h.Reaches a x ∨ h.Reaches b x) ∧ h.Missing x) ∧
    (∀ bases, (g.mergeBases a b state).1 = .ok bases → h.ListsBest a b bases) ∧
    ∀ bases state', valid state' →
      ((g.mergeBases a b state).1 = .ok bases ↔ (g.mergeBases b a state').1 = .ok bases) := by
  refine ⟨mergeBases_error_iff hg hstate, fun bases hrun ↦ ?_, fun bases state' hstate' ↦ ?_⟩
  · exact (bestAncestors_of_eq_ok hg hstate hrun).listsBest hacyclic
  · exact ⟨mergeBases_swap hg hstate hstate', mergeBases_swap hg hstate' hstate⟩

end CommitGraph

namespace MemoryRepository

/-- Two branches that were merged into each other. -/
def crossed : MemoryRepository :=
  ((((({ location := "crossed" } : MemoryRepository).addCommit "root" [] "start").addCommit
    "left" ["root"] "one side").addCommit "right" ["root"] "other side").addCommit
    "east" ["left", "right"] "merge").addCommit "west" ["right", "left"] "merge"

theorem crossed_acyclic : crossed.history.Acyclic :=
  acyclic_of_rank
    (fun hash ↦ if hash = "east" ∨ hash = "west" then 2 else if hash = "root" then 0 else 1)
    (by decide +kernel)

theorem crossed_mergeBases :
    crossed.graph.mergeBases "east" "west" () = (.ok ["left", "right"], ()) := by
  obtain ⟨_, hroot⟩ := crossed.exists_fetch_eq "root"
    ⟨"root", "start", [], defaultAuthor⟩ rfl
  obtain ⟨_, hleft⟩ := crossed.exists_fetch_eq "left"
    ⟨"left", "one side", ["root"], defaultAuthor⟩ rfl
  obtain ⟨_, hright⟩ := crossed.exists_fetch_eq "right"
    ⟨"right", "other side", ["root"], defaultAuthor⟩ rfl
  obtain ⟨_, heast⟩ := crossed.exists_fetch_eq "east"
    ⟨"east", "merge", ["left", "right"], defaultAuthor⟩ rfl
  obtain ⟨_, hwest⟩ := crossed.exists_fetch_eq "west"
    ⟨"west", "merge", ["right", "left"], defaultAuthor⟩ rfl
  have hold : crossed.graph.ancestors "east" = pure ["left", "root", "right", "east"] := by
    simp [CommitGraph.ancestors, CommitGraph.collectAncestors, hroot, hleft, hright, heast]
  have hnew : crossed.graph.ancestors "west" = pure ["right", "root", "left", "west"] := by
    simp [CommitGraph.ancestors, CommitGraph.collectAncestors, hroot, hleft, hright, hwest]
  have hsorted : CommitGraph.sortHashes ["right", "left"] = ["left", "right"] :=
    CommitGraph.sortHashes_eq (List.Perm.swap "left" "right" []) (by decide +kernel)
  have hbases : crossed.graph.mergeBases "east" "west" = pure ["left", "right"] := by
    simp [CommitGraph.mergeBases, CommitGraph.collectBreadthFirst, CommitGraph.parentsOf, hroot,
      hleft, hright, hold, hnew, hsorted]
  exact congrFun hbases ()

theorem crossed_best : crossed.history.ListsBest "east" "west" ["left", "right"] ∧
    (crossed.graph.mergeBases "west" "east" ()).1 = .ok ["left", "right"] := by
  obtain ⟨_, hbest, hswap⟩ := CommitGraph.mergeBases_best crossed.graph_serves crossed_acyclic
    "east" "west" () trivial
  have hrun : (crossed.graph.mergeBases "east" "west" ()).1 = .ok ["left", "right"] :=
    congrArg Prod.fst crossed_mergeBases
  exact ⟨hbest _ hrun, (hswap _ () trivial).1 hrun⟩

end MemoryRepository

end ReleaseAudit
