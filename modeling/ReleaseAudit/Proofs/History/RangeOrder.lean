import ReleaseAudit.Proofs.History.Provenance
import ReleaseAudit.Proofs.History.RangeRun

/-!
# The order of a range

Only the head of a range has no children in it. From this single beginning the range is listed in one
order, children before parents, which does not depend on how the collected commits were arranged. A
parent that is named several times is ready when its last naming is counted, so that the order in which
the parents of a commit are named for the last time shows in the list, and no other naming does.
-/

namespace ReleaseAudit

namespace History

variable {h h' : History}

/-- Both histories have commits under the same hashes, with the same parents in the order in which these
are named for the last time, which is the naming that `List.dedup` keeps. -/
def SameParents (h h' : History) : Prop := ∀ hash,
  (h hash).toOption.map (fun commit ↦ commit.parents.dedup) =
    (h' hash).toOption.map fun commit ↦ commit.parents.dedup

theorem SameParents.refl (h : History) : h.SameParents h := fun _ ↦ rfl

theorem parent_iff_toOption {child parent : String} :
    h.Parent child parent ↔
      ∃ parents, (h child).toOption.map (fun commit ↦ commit.parents.dedup) = some parents ∧
        parent ∈ parents := by
  cases hchild : h child with
  | error e => simp [Parent, hchild, Except.toOption]
  | ok commit => simp [Parent, hchild, Except.toOption]

theorem SameParents.parent_eq (hsame : h.SameParents h') : h.Parent = h'.Parent := by
  ext child parent
  rw [parent_iff_toOption, parent_iff_toOption, hsame child]

theorem SameParents.reaches_iff (hsame : h.SameParents h') {start hash : String} :
    h.Reaches start hash ↔ h'.Reaches start hash := by
  rw [Reaches, Reaches, hsame.parent_eq]

theorem SameParents.acyclic (hsame : h.SameParents h') (hacyclic : h.Acyclic) : h'.Acyclic := by
  intro hash hcycle
  rw [Precedes, ← hsame.parent_eq] at hcycle
  exact hacyclic hash hcycle

theorem SameParents.present (hsame : h.SameParents h') {hash : String}
    (hpresent : ∃ commit, h hash = .ok commit) : ∃ commit, h' hash = .ok commit := by
  obtain ⟨commit, hc⟩ := hpresent
  have hparents := hsame hash
  rw [hc] at hparents
  cases hc' : h' hash with
  | error e => simp [hc', Except.toOption] at hparents
  | ok commit' => exact ⟨commit', rfl⟩

theorem SameParents.dedup_eq (hsame : h.SameParents h') {hash : String} {commit commit' : Commit}
    (hc : h hash = .ok commit) (hc' : h' hash = .ok commit') :
    commit.parents.dedup = commit'.parents.dedup := by
  simpa [hc, hc', Except.toOption] using hsame hash

/-- All commits that are reached from a base or a head. -/
def Complete (h : History) (base head : String) : Prop :=
  ∀ x, h.Reaches base x ∨ h.Reaches head x → ∃ commit, h x = .ok commit

theorem SameParents.complete (hsame : h.SameParents h') {base head : String}
    (hcomplete : h.Complete base head) : h'.Complete base head := by
  intro x hx
  rw [← hsame.reaches_iff, ← hsame.reaches_iff] at hx
  exact hsame.present (hcomplete x hx)

/-- The commits of `hashes` are those that the head has in its history and the base has not, every one
of them once and in front of all of its parents. -/
structure NewestFirst (h : History) (base head : String) (hashes : List String)
    (commits : List Commit) : Prop where
  records : List.Forall₂ (fun hash commit ↦ h hash = .ok commit) hashes commits
  nodup : hashes.Nodup
  mem_iff : ∀ x, x ∈ hashes ↔ h.Reaches head x ∧ ¬ h.Reaches base x
  parents_behind : ∀ i j (hi : i < hashes.length) (hj : j < hashes.length),
    h.Parent hashes[i] hashes[j] → i < j

end History

namespace CommitGraph

open Topological (Alike Ordered firstReady)

variable {σ : Type} {g : CommitGraph σ} {valid : σ → Prop} {h h' : History} {base head : String}
  {entries others : List (String × Commit)} {hashes : List String} {out : List Commit}

namespace IsIncluded

/-- On the way from the head to any other commit of a range there is a child of this commit. -/
theorem eq_head (hentries : IsIncluded h base head entries) :
    ∀ x ∈ firstReady entries, x = head := by
  intro x hx
  obtain ⟨hkey, hzero⟩ := Topological.mem_firstReady.1 hx
  obtain ⟨hreach, hbase⟩ := (hentries.mem_iff x).1 hkey
  rcases Relation.ReflTransGen.cases_tail hreach with heq | ⟨child, hchild, hparent⟩
  · exact heq
  have hout : ¬ h.Reaches base child := fun hin ↦ hbase (hin.trans hparent.reaches)
  obtain ⟨commit, -, hentry⟩ :=
    Topological.exists_lookup_eq_some ((hentries.mem_iff child).2 ⟨hchild, hout⟩)
  have hmem : x ∈ commit.parents := (History.parent_iff (hentries.served _ hentry)).1 hparent
  exact absurd hmem (Topological.waiting_eq_zero_iff.1 hzero _ hentry List.not_mem_nil)

theorem alike (hentries : IsIncluded h base head entries)
    (hothers : IsIncluded h' base head others) (hsame : h.SameParents h') : Alike entries others where
  mem_iff x := by
    rw [hentries.mem_iff, hothers.mem_iff, hsame.reaches_iff, hsame.reaches_iff]
  parents hash commit other hcommit hother :=
    hsame.dedup_eq (hentries.served _ hcommit) (hothers.served _ hother)

theorem ordered (hentries : IsIncluded h base head entries)
    (hothers : IsIncluded h' base head others) (hsame : h.SameParents h')
    (hordered : Ordered entries hashes out) : Ordered others hashes (Topological.order others) :=
  (hentries.alike hothers hsame).ordered hentries.nodup hothers.nodup hentries.eq_head hordered

theorem records (hentries : IsIncluded h base head entries) (hordered : Ordered entries hashes out) :
    List.Forall₂ (fun hash commit ↦ h hash = .ok commit) hashes out :=
  hordered.records.imp fun _ _ hentry ↦ hentries.served _ hentry

/-- The arrangement of the entries does not matter. -/
theorem order_eq (hentries : IsIncluded h base head entries)
    (hothers : IsIncluded h base head others) :
    Topological.order entries = Topological.order others := by
  obtain ⟨hashes, hordered⟩ := Topological.exists_ordered hentries.nodup
  have hordered' := hentries.ordered hothers (History.SameParents.refl h) hordered
  have hunique : Relator.RightUnique fun hash commit ↦ h hash = .ok commit := by
    intro hash a b ha hb
    cases ha.symm.trans hb
    rfl
  exact List.right_unique_forall₂' hunique (hentries.records hordered) (hothers.records hordered')

theorem newestFirst (hentries : IsIncluded h base head entries) (hacyclic : h.Acyclic)
    (hordered : Ordered entries hashes out) : h.NewestFirst base head hashes out where
  records := hentries.records hordered
  nodup := hordered.nodup
  mem_iff x := (hordered.mem_iff hacyclic hentries.served x).trans (hentries.mem_iff x)
  parents_behind i j hi hj hparent := by
    have hkey : hashes[i] ∈ entries.map Prod.fst :=
      (hordered.mem_iff hacyclic hentries.served _).1 (List.getElem_mem hi)
    obtain ⟨commit, -, hentry⟩ := Topological.exists_lookup_eq_some hkey
    have hmem : hashes[j] ∈ commit.parents :=
      (History.parent_iff (hentries.served _ hentry)).1 hparent
    have habove : hashes[i] ∈ hashes.take j := hordered.children_above j hj _ hentry hmem
    obtain ⟨k, hk, heq⟩ := List.mem_take_iff_getElem.1 habove
    have hki : k = i := (hordered.nodup.getElem_inj_iff).1 heq
    omega

end IsIncluded

theorem commitRangeBy_eq (arrange : List (String × Commit) → List (String × Commit)) :
    g.commitRangeBy arrange base head =
      g.rangeEntries base head >>= fun included ↦ pure (Topological.order (arrange included)) := by
  rw [commitRangeBy, rangeEntries, bind_assoc]

theorem commitRangeBy_eq_ok (arrange : List (String × Commit) → List (String × Commit))
    {state after : σ} (hrun : g.rangeEntries base head state = (.ok entries, after)) :
    g.commitRangeBy arrange base head state =
      (.ok (Topological.order (arrange entries)), after) := by
  rw [commitRangeBy_eq, Access.bind_apply, hrun]
  rfl

/-- Nothing stops the walks of a range when no commit is missing. -/
theorem exists_rangeEntries (hg : g.Serves valid h) (hcomplete : h.Complete base head) {state : σ}
    (hstate : valid state) :
    ∃ entries after, g.rangeEntries base head state = (.ok entries, after) ∧
      IsIncluded h base head entries := by
  have hentries := (rangeEntries_ensures hg base head state hstate).1
  rcases hrun : g.rangeEntries base head state with ⟨e | entries, after⟩ <;> rw [hrun] at hentries
  · obtain ⟨p, hp, x, hpx, hx⟩ := hentries
    have hreached : h.Reaches base x ∨ h.Reaches head x := by
      rcases List.mem_pair.1 hp with rfl | rfl
      · exact .inl hpx
      · exact .inr hpx
    exact absurd ⟨e, hx⟩ (History.not_missing (hcomplete x hreached))
  · exact ⟨entries, after, rfl, hentries⟩

/-- The graph lists the commits of `hashes` as the range, in whatever order the collected commits are
looked through. -/
structure ListsRange (g : CommitGraph σ) (h : History) (base head : String) (state : σ)
    (hashes : List String) : Prop where
  listed : ∃ commits after, g.commitRange base head state = (.ok commits, after) ∧
    h.NewestFirst base head hashes commits
  arranged : ∀ arrange, (∀ entries, (arrange entries).Perm entries) →
    g.commitRangeBy arrange base head state = g.commitRange base head state

theorem listsRange_of_ordered (hacyclic : h.Acyclic) {state after : σ}
    (hrun : g.rangeEntries base head state = (.ok entries, after))
    (hentries : IsIncluded h base head entries)
    (hordered : Ordered entries hashes (Topological.order entries)) :
    g.ListsRange h base head state hashes := by
  have harranged (arrange : List (String × Commit) → List (String × Commit))
      (harrange : ∀ entries, (arrange entries).Perm entries) :
      g.commitRangeBy arrange base head state = (.ok (Topological.order entries), after) := by
    rw [commitRangeBy_eq_ok arrange hrun, (hentries.of_perm (harrange entries)).order_eq hentries]
  have hlisted := harranged List.reverse List.reverse_perm
  rw [commitRangeBy_reverse] at hlisted
  exact ⟨⟨_, after, hlisted, hentries.newestFirst hacyclic hordered⟩,
    fun arrange harrange ↦ (harranged arrange harrange).trans hlisted.symm⟩

/-- A range is listed with children in front of their parents. Its order is that of the history alone:
the arrangement of the collected commits does not show in it, and of the parents of a commit only the
order of their last namings does. On any graph at all, the loops of a range end, no count of children
falls below zero, and no commit is listed twice. -/
theorem commitRange_newestFirst (g : CommitGraph σ) (base head : String) :
    (∀ arrange, (∀ entries, (arrange entries).Perm entries) → ∀ state,
      g.RangeRun base head state (g.commitRangeBy arrange base head state).1
        (g.commitRangeBy arrange base head state).2) ∧
    ∀ valid h state, g.Serves valid h → valid state → h.Acyclic → h.Complete base head →
      ∃ hashes, g.ListsRange h base head state hashes ∧
        ∀ (τ : Type) (g' : CommitGraph τ) valid' h' state', g'.Serves valid' h' → valid' state' →
          h.SameParents h' → g'.ListsRange h' base head state' hashes := by
  refine ⟨fun arrange harrange state ↦ commitRangeBy_run harrange base head state,
    fun valid h state hg hstate hacyclic hcomplete ↦ ?_⟩
  obtain ⟨entries, after, hrun, hentries⟩ := exists_rangeEntries hg hcomplete hstate
  obtain ⟨hashes, hordered⟩ := Topological.exists_ordered hentries.nodup
  refine ⟨hashes, listsRange_of_ordered hacyclic hrun hentries hordered,
    fun τ g' valid' h' state' hg' hstate' hsame ↦ ?_⟩
  obtain ⟨entries', after', hrun', hentries'⟩ :=
    exists_rangeEntries hg' (hsame.complete hcomplete) hstate'
  have hordered' := hentries.ordered hentries' hsame hordered
  exact listsRange_of_ordered (hsame.acyclic hacyclic) hrun' hentries' hordered'

end CommitGraph

namespace MemoryRepository

/-- The history of `merged`, where the merge names a parent once more in front of the others. Both
parents are named for the last time in the same order as there. -/
def doubled : MemoryRepository :=
  (((({ location := "doubled" } : MemoryRepository).addCommit "root" [] "start").addCommit
    "left" ["root"] "one side").addCommit "right" ["root"] "other side").addCommit
    "joint" ["right", "left", "right"] "merge"

theorem sameParents_of_map_eq {r r' : MemoryRepository}
    (h : (r.commits.map fun (hash, commit) ↦ (hash, commit.parents.dedup)) =
      r'.commits.map fun (hash, commit) ↦ (hash, commit.parents.dedup)) :
    r.history.SameParents r'.history := by
  intro hash
  have hparents := Topological.lookup_map_snd fun (_ : String) (c : Commit) ↦ c.parents.dedup
  have hlookup := congrArg (List.lookup hash) h
  rw [hparents, hparents] at hlookup
  rw [history_toOption, history_toOption]
  exact hlookup

/-- Nothing is missing when all parents of commits are there. -/
theorem complete_of_closed {r : MemoryRepository} {base head : String}
    (hclosed : ∀ entry ∈ r.commits, ∀ p ∈ entry.2.parents, p ∈ r.commits.keys)
    (hbase : base ∈ r.commits.keys) (hhead : head ∈ r.commits.keys) :
    r.history.Complete base head := by
  rintro x (hx | hx)
  · exact present_of_closed hclosed hbase hx
  · exact present_of_closed hclosed hhead hx

theorem merged_complete : merged.history.Complete "root" "joint" :=
  complete_of_closed (by decide +kernel) (by decide +kernel) (by decide +kernel)

theorem merged_newestFirst :
    merged.graph.RangeRun "root" "joint" () (merged.graph.commitRangeBy id "root" "joint" ()).1
      (merged.graph.commitRangeBy id "root" "joint" ()).2 ∧
    ∃ hashes, merged.graph.ListsRange merged.history "root" "joint" () hashes ∧
      doubled.graph.ListsRange doubled.history "root" "joint" () hashes := by
  obtain ⟨hrun, hlists⟩ := CommitGraph.commitRange_newestFirst merged.graph "root" "joint"
  obtain ⟨hashes, hmerged, hother⟩ := hlists (fun _ ↦ True) merged.history () merged.graph_serves
    trivial merged_acyclic merged_complete
  have hsame : merged.history.SameParents doubled.history :=
    sameParents_of_map_eq (by decide +kernel)
  refine ⟨hrun id (fun entries ↦ List.Perm.refl entries) (), hashes, hmerged, ?_⟩
  exact hother Unit doubled.graph (fun _ ↦ True) doubled.history () doubled.graph_serves trivial
    hsame

/-- The history of `merged`, where the merge names a parent once more behind the others. -/
def rejoined : MemoryRepository :=
  (((({ location := "rejoined" } : MemoryRepository).addCommit "root" [] "start").addCommit
    "left" ["root"] "one side").addCommit "right" ["root"] "other side").addCommit
    "joint" ["left", "right", "left"] "merge"

theorem rejoined_acyclic : rejoined.history.Acyclic :=
  acyclic_of_rank (fun hash ↦ if hash = "joint" then 2 else if hash = "root" then 0 else 1)
    (by decide +kernel)

theorem rejoined_complete : rejoined.history.Complete "root" "joint" :=
  complete_of_closed (by decide +kernel) (by decide +kernel) (by decide +kernel)

/-- A merge that names a parent once more has its parents listed in another order, although nothing
else has changed and nothing is missing. -/
theorem range_of_rejoined :
    (rejoined.commits.map fun (hash, commit) ↦ (hash, commit.parents.eraseDups)) =
        (merged.commits.map fun (hash, commit) ↦ (hash, commit.parents)) ∧
      merged.history.Acyclic ∧ merged.history.Complete "root" "joint" ∧
      rejoined.history.Acyclic ∧ rejoined.history.Complete "root" "joint" ∧
      merged.graph.commitRange "root" "joint" () =
        (.ok [⟨"joint", "merge", ["left", "right"], defaultAuthor⟩,
          ⟨"left", "one side", ["root"], defaultAuthor⟩,
          ⟨"right", "other side", ["root"], defaultAuthor⟩], ()) ∧
      rejoined.graph.commitRange "root" "joint" () =
        (.ok [⟨"joint", "merge", ["left", "right", "left"], defaultAuthor⟩,
          ⟨"right", "other side", ["root"], defaultAuthor⟩,
          ⟨"left", "one side", ["root"], defaultAuthor⟩], ()) := by
  refine ⟨by decide +kernel, merged_acyclic, merged_complete, rejoined_acyclic, rejoined_complete,
    ?merged, ?rejoined⟩
  case merged =>
    obtain ⟨_, hroot⟩ := merged.exists_fetch_eq "root"
      ⟨"root", "start", [], defaultAuthor⟩ rfl
    obtain ⟨_, hleft⟩ := merged.exists_fetch_eq "left"
      ⟨"left", "one side", ["root"], defaultAuthor⟩ rfl
    obtain ⟨_, hright⟩ := merged.exists_fetch_eq "right"
      ⟨"right", "other side", ["root"], defaultAuthor⟩ rfl
    obtain ⟨_, hjoint⟩ := merged.exists_fetch_eq "joint"
      ⟨"joint", "merge", ["left", "right"], defaultAuthor⟩ rfl
    simp [CommitGraph.commitRange, CommitGraph.ancestors, CommitGraph.collectAncestors,
      CommitGraph.collectRange, hroot, hleft, hright, hjoint]
    rfl
  case rejoined =>
    obtain ⟨_, hroot⟩ := rejoined.exists_fetch_eq "root"
      ⟨"root", "start", [], defaultAuthor⟩ rfl
    obtain ⟨_, hleft⟩ := rejoined.exists_fetch_eq "left"
      ⟨"left", "one side", ["root"], defaultAuthor⟩ rfl
    obtain ⟨_, hright⟩ := rejoined.exists_fetch_eq "right"
      ⟨"right", "other side", ["root"], defaultAuthor⟩ rfl
    obtain ⟨_, hjoint⟩ := rejoined.exists_fetch_eq "joint"
      ⟨"joint", "merge", ["left", "right", "left"], defaultAuthor⟩ rfl
    simp [CommitGraph.commitRange, CommitGraph.ancestors, CommitGraph.collectAncestors,
      CommitGraph.collectRange, hroot, hleft, hright, hjoint]
    rfl

end MemoryRepository

end ReleaseAudit
