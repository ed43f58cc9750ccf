import ReleaseAudit.History.Error
import ReleaseAudit.Walk

/-!
# Commit graphs

Commits are linked to their parents. The functions here walk over the parents of commits that a graph
hands out one at a time: the ancestors of a commit, the best common ancestors of two commits, and the
commits that one of them has in its history and the other has not.
-/

namespace ReleaseAudit

structure Commit where
  hash : String
  message : String
  parents : List String
  author : String
deriving DecidableEq, Repr, Inhabited

/-- A computation on a source of commits with state `σ`; the state is kept when it fails. -/
abbrev Access (σ : Type) := ExceptT HistoryError (StateM σ)

/-- A source of commits. It hands out commits for finitely many hashes only. -/
structure CommitGraph (σ : Type) where
  known : List String
  fetch : (hash : String) → Access σ { _c : Commit // hash ∈ known }

namespace CommitGraph

variable {σ : Type} (g : CommitGraph σ)

/-- Adds the commits on `pending`, last in first out, and their ancestors to `seen`. -/
def collectAncestors (seen : List String) (pending : List String) : Access σ (List String) :=
  match pending with
  | [] => pure seen
  | hash :: rest =>
    if hs : hash ∈ seen then collectAncestors seen rest
    else do
      let ⟨commit, hk⟩ ← g.fetch hash
      have := Walk.left_lt hk hs
      collectAncestors (hash :: seen)
        ((commit.parents.filter (· ∉ hash :: seen)).reverse ++ rest)
termination_by (Walk.left g.known seen, pending.length)

/-- The commit itself and all commits in its history. -/
def ancestors (start : String) : Access σ (List String) := g.collectAncestors [] [start]

/-- Adds the commits on `pending`, first in first out, and their ancestors to `seen`. -/
def collectBreadthFirst (seen : List String) (pending : List String) : Access σ (List String) :=
  match pending with
  | [] => pure seen
  | hash :: rest =>
    if hs : hash ∈ seen then collectBreadthFirst seen rest
    else do
      let ⟨commit, hk⟩ ← g.fetch hash
      have := Walk.left_lt hk hs
      collectBreadthFirst (hash :: seen) (rest ++ commit.parents.filter (· ∉ hash :: seen))
termination_by (Walk.left g.known seen, pending.length)

def parentsOf : List String → Access σ (List String)
  | [] => pure []
  | hash :: rest => do
    let ⟨commit, _⟩ ← g.fetch hash
    return commit.parents ++ (← parentsOf rest)

def sortHashes (hashes : List String) : List String := hashes.mergeSort (· ≤ ·)

/-- The common ancestors of two commits that are in the history of no other one, sorted. -/
def mergeBases (a b : String) : Access σ (List String) := do
  let left ← g.ancestors a
  let right ← g.ancestors b
  let common := left.reverse.filter (· ∈ right)
  let redundant ← g.collectBreadthFirst [] (← g.parentsOf common)
  return sortHashes (common.filter (· ∉ redundant))

/-- Adds the commits on `pending`, last in first out, and those of their ancestors to `included` that
are not in `excluded`. -/
def collectRange (excluded : List String) (included : List (String × Commit))
    (pending : List String) : Access σ (List (String × Commit)) :=
  match pending with
  | [] => pure included
  | hash :: rest =>
    if hs : hash ∈ included.map Prod.fst then collectRange excluded included rest
    else if hash ∈ excluded then collectRange excluded included rest
    else do
      let ⟨commit, hk⟩ ← g.fetch hash
      have : Walk.left g.known (((hash, commit) :: included).map Prod.fst) <
          Walk.left g.known (included.map Prod.fst) := Walk.left_lt hk hs
      collectRange excluded ((hash, commit) :: included) (commit.parents.reverse ++ rest)
termination_by (Walk.left g.known (included.map Prod.fst), pending.length)

end CommitGraph

/-! ## Listing children before parents -/

namespace Topological

/-- How often each commit is a parent of one of `commits`. -/
def childCount (commits : List (String × Commit)) (hash : String) : Nat :=
  (commits.flatMap (·.2.parents)).count hash

/-- Takes one child off the count of every parent in `parents` that is counted, and returns those
whose last child it was. -/
def release (counts : List (String × Nat)) : List String → List (String × Nat) × List String
  | [] => (counts, [])
  | p :: ps =>
    match counts.lookup p with
    | none => release counts ps
    | some n =>
      let (counts, free) := release (counts.map fun (h, m) => (h, if h = p then m - 1 else m)) ps
      (counts, if n = 1 then p :: free else free)

/-- Lists the commits on `ready` and then those that become ready. Each is listed once, so `fuel` is
the number of commits. -/
def list (commits : List (String × Commit)) :
    (fuel : Nat) → (counts : List (String × Nat)) → (ready : List String) → List Commit
  | 0, _, _ => []
  | _, _, [] => []
  | fuel + 1, counts, hash :: ready =>
    match commits.lookup hash with
    | none => list commits fuel counts ready
    | some commit =>
      let (counts, free) := release counts commit.parents
      commit :: list commits fuel counts (ready ++ free)

/-- The commits with every commit in front of its parents; commits on a cycle are left out. -/
def order (commits : List (String × Commit)) : List Commit :=
  let counts := (commits.map fun (h, _) => (h, childCount commits h)).filter (·.2 != 0)
  let ready := (commits.map Prod.fst).filter (childCount commits · == 0)
  list commits commits.length counts ready

end Topological

namespace CommitGraph

variable {σ : Type} (g : CommitGraph σ)

/-- The commits in the history of `head` and not in that of `base`, newest first. -/
def commitRange (base head : String) : Access σ (List Commit) := do
  let excluded ← g.ancestors base
  let included ← g.collectRange excluded [] [head]
  return Topological.order included.reverse

end CommitGraph

end ReleaseAudit
