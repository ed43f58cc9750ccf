import ReleaseAudit.Proofs.History.Rounds

/-!
# The commits between two revisions

The range of a base and a head is listed as what the head has in its history and the base has not,
every commit once.
-/

namespace ReleaseAudit.CommitGraph

variable {σ : Type} {g : CommitGraph σ} {valid : σ → Prop} {h : History}

/-- The commits of a range are those of the history, under the hashes that only the head reaches. -/
def IsRange (h : History) (base head : String) (commits : List Commit) : Prop :=
  ∃ entries : List (String × Commit), commits.Perm (entries.map Prod.snd) ∧
    (entries.map Prod.fst).Nodup ∧ (∀ entry ∈ entries, h entry.1 = .ok entry.2) ∧
    ∀ x, x ∈ entries.map Prod.fst ↔ h.Reaches head x ∧ ¬ h.Reaches base x

/-- The commits that are collected for a range, under their hashes. -/
def rangeEntries (g : CommitGraph σ) (base head : String) : Access σ (List (String × Commit)) := do
  let excluded ← g.ancestors base
  g.collectRange excluded [] [head]

theorem commitRange_eq (base head : String) :
    g.commitRange base head =
      g.rangeEntries base head >>= fun included ↦ pure (Topological.order included.reverse) := by
  rw [commitRange, rangeEntries, bind_assoc]

/-- The entries are what only the head reaches, every commit once. -/
structure IsIncluded (h : History) (base head : String) (entries : List (String × Commit)) : Prop where
  nodup : (entries.map Prod.fst).Nodup
  served : ∀ entry ∈ entries, h entry.1 = .ok entry.2
  mem_iff : ∀ x, x ∈ entries.map Prod.fst ↔ h.Reaches head x ∧ ¬ h.Reaches base x

theorem IsIncluded.of_perm {base head : String} {entries arranged : List (String × Commit)}
    (hentries : IsIncluded h base head entries) (hperm : arranged.Perm entries) :
    IsIncluded h base head arranged where
  nodup := (hperm.map Prod.fst).nodup_iff.2 hentries.nodup
  served entry hentry := hentries.served entry (hperm.mem_iff.1 hentry)
  mem_iff x := (hperm.map Prod.fst).mem_iff.trans (hentries.mem_iff x)

theorem rangeEntries_ensures (hg : g.Serves valid h) (base head : String) :
    Access.Ensures valid (g.rangeEntries base head) fun
      | .ok entries => IsIncluded h base head entries
      | .error e => h.Blocked [base, head] e := by
  refine (ancestors_walked hg base).bind ?_ fun excluded hexcluded ↦ ?_
  · rintro e ⟨p, hp, hx⟩
    exact ⟨p, by simp_all, hx⟩
  have hbase (x : String) : x ∈ excluded ↔ h.Reaches base x := by simpa using hexcluded.mem_iff
  refine (collectRange_walked hg excluded [] [head]).mono ?_
  rintro (e | entries) ⟨hwalk, hserved⟩
  · obtain ⟨p, hp, hx⟩ := hwalk
    exact ⟨p, by simp_all, hx⟩
  have hclosed : ∀ x ∈ excluded, ∀ y, h.Reaches x y → y ∈ excluded := fun x hx y hxy ↦
    (hbase y).2 (((hbase x).1 hx).trans hxy)
  refine ⟨hwalk.nodup List.nodup_nil, fun entry hentry ↦ ?_, fun x ↦ ?_⟩
  · simpa using hserved entries rfl entry hentry
  · calc
      x ∈ entries.map Prod.fst ↔ x ∉ excluded ∧ ∃ p ∈ [head], h.Reaches p x :=
        History.Collected.mem_iff_of_excluded hwalk hclosed
      _ ↔ x ∉ excluded ∧ h.Reaches head x := by simp
      _ ↔ h.Reaches head x ∧ ¬ h.Reaches base x := by rw [hbase, and_comm]

theorem commitRange_ensures (hg : g.Serves valid h) (hacyclic : h.Acyclic) (base head : String) :
    Access.Ensures valid (g.commitRange base head) fun
      | .ok commits => IsRange h base head commits
      | .error e => h.Blocked [base, head] e := by
  rw [commitRange_eq]
  refine (rangeEntries_ensures hg base head).bind (fun _ ↦ id) fun included hincluded ↦ ?_
  obtain ⟨hnodup, hserved, hmem⟩ := hincluded.of_perm (List.reverse_perm included)
  exact Access.ensures_pure
    ⟨included.reverse, Topological.order_perm hacyclic hnodup hserved, hnodup, hserved, hmem⟩

end ReleaseAudit.CommitGraph
