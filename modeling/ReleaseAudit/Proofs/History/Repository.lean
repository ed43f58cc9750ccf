import ReleaseAudit.History.Store
import ReleaseAudit.Proofs.Dict
import ReleaseAudit.Proofs.History.Ancestry

/-!
# The history of a memory repository

A memory repository serves the history that its dictionary of commits holds. Repositories are put
together by adding commits under their own hashes, so that every commit is found under its hash.
-/

namespace ReleaseAudit

namespace MemoryRepository

variable {r : MemoryRepository}

/-- The repositories that can be put together from an empty one. -/
inductive Built : MemoryRepository → Prop
  | empty (location : String) : Built { location }
  | insert {r : MemoryRepository} (commit : Commit) : Built r → Built (r.insert commit)
  | setRef {r : MemoryRepository} (ref hash : String) : Built r → Built (r.setRef ref hash)

def history (r : MemoryRepository) : History := fun hash ↦ (r.fetch hash).map Subtype.val

theorem history_eq (hash : String) :
    r.history hash =
      match r.commits.get? hash with
      | some commit => .ok commit
      | none => .error (.missingCommit hash r.location) := by
  unfold history fetch
  split <;> simp_all [Except.map]

theorem history_eq_ok_iff {hash : String} {commit : Commit} :
    r.history hash = .ok commit ↔ r.commits.get? hash = some commit := by
  rw [history_eq]
  split <;> simp_all

/-- What is found under a hash is handed out. -/
theorem exists_fetch_eq (r : MemoryRepository) (hash : String) (commit : Commit)
    (h : r.commits.get? hash = some commit) : ∃ hk, r.graph.fetch hash = pure ⟨commit, hk⟩ := by
  have hhistory : (r.fetch hash).map Subtype.val = .ok commit := history_eq_ok_iff.2 h
  rcases hfetch : r.fetch hash with e | ⟨found, hk⟩ <;> rw [hfetch] at hhistory <;> cases hhistory
  exact ⟨hk, congrArg graph.liftExcept hfetch⟩

theorem graph_serves (r : MemoryRepository) : r.graph.Serves (fun _ ↦ True) r.history :=
  fun _ _ _ ↦ ⟨rfl, trivial⟩

theorem Built.hash_eq (hbuilt : r.Built) : ∀ entry ∈ r.commits, entry.2.hash = entry.1 := by
  induction hbuilt with
  | empty location => simp
  | insert commit _ ih =>
    intro entry hentry
    rcases Dict.mem_insert hentry with rfl | hmem
    · rfl
    · exact ih entry hmem
  | setRef ref hash _ ih => exact ih

theorem mem_of_history_eq_ok {hash : String} {commit : Commit} (hc : r.history hash = .ok commit) :
    (hash, commit) ∈ r.commits := by
  obtain ⟨front, back, hsplit, _⟩ := List.lookup_eq_some_iff.1 (history_eq_ok_iff.1 hc)
  simp [hsplit]

theorem Built.named (hbuilt : r.Built) : r.history.Named := fun _ _ hc ↦
  hbuilt.hash_eq _ (mem_of_history_eq_ok hc)

theorem history_toOption (hash : String) : (r.history hash).toOption = r.commits.get? hash := by
  rw [history_eq]
  split <;> simp_all [Except.toOption]

/-- Nothing is missing from a repository that holds all parents of its commits. -/
theorem present_of_closed
    (hclosed : ∀ entry ∈ r.commits, ∀ p ∈ entry.2.parents, p ∈ r.commits.keys) {start hash : String}
    (hstart : start ∈ r.commits.keys) (hreach : r.history.Reaches start hash) :
    ∃ commit, r.history hash = .ok commit := by
  have hkey : hash ∈ r.commits.keys := by
    rcases Relation.ReflTransGen.cases_tail hreach with rfl | ⟨child, _, commit, hc, hparent⟩
    · exact hstart
    · exact hclosed (child, commit) (mem_of_history_eq_ok hc) hash hparent
  cases hget : r.commits.get? hash with
  | some commit => exact ⟨commit, history_eq_ok_iff.2 hget⟩
  | none =>
    obtain ⟨entry, hentry, rfl⟩ := List.mem_map.1 hkey
    simpa using List.lookup_eq_none_iff.1 hget entry hentry

theorem acyclic_of_rank (rank : String → Nat)
    (hrank : ∀ entry ∈ r.commits, ∀ p ∈ entry.2.parents, rank p < rank entry.1) :
    r.history.Acyclic := by
  refine History.acyclic_of_rank rank ?_
  rintro child parent ⟨commit, hc, hparent⟩
  exact hrank (child, commit) (mem_of_history_eq_ok hc) parent hparent

end MemoryRepository

end ReleaseAudit
