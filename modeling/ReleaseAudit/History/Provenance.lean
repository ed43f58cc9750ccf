import ReleaseAudit.History.Store

/-!
# Provenance

What lies between two revisions of a component: the commits that the new revision adds to the history
of the old one, and the branches that contain it. A revision is a branch, a tag, a branch of the
remote, or a hash, looked up in this order.
-/

namespace ReleaseAudit

structure ResolverOptions where
  remoteName : String := "origin"
  /-- The number of commits that an opened repository keeps at hand. -/
  commitCacheSize : Nat := 1024
deriving DecidableEq, Repr

inductive ResolveError where
  | access (location : String) (cause : HistoryError)
  | unresolved (revision : String)
  | inputs (count : Nat)
  | ambiguous (count : Nat)
deriving DecidableEq, Repr

def ResolveError.chain : ResolveError → List String
  | access location cause => ("cannot access repository " ++ location) :: cause.chain
  | unresolved revision => ["cannot resolve revision " ++ revision]
  | inputs count => ["expected 2 commits, got " ++ toString count]
  | ambiguous count => ["expected 1 common ancestor, got " ++ toString count]

inductive MergeBaseError where
  | inputs (count : Nat)
  | ambiguous (count : Nat)
  | store (cause : HistoryError)
deriving DecidableEq, Repr

def MergeBaseError.chain : MergeBaseError → List String
  | inputs count => ["expected 2 commits, got " ++ toString count]
  | ambiguous count => ["expected 1 common ancestor, got " ++ toString count]
  | store cause => cause.chain

structure Provenance where
  mergeBase : String
  head : String
  /-- Newest first, without the merge base. -/
  commits : List Commit
deriving DecidableEq, Repr

/-- The branches that contain `commit`. -/
structure BranchSet where
  commit : String
  branches : List Branch
deriving DecidableEq, Repr

namespace BranchSet

def names (b : BranchSet) : List String := b.branches.map Branch.name

end BranchSet

/-- A computation on a commit store that ends in a resolution or its failure. -/
abbrev Resolving (σ : Type) := ExceptT ResolveError (StateM σ)

namespace CommitStore

variable {σ : Type} (s : CommitStore σ)

/-- The single best common ancestor of exactly two commits. -/
def mergeBase (commits : List String) : ExceptT MergeBaseError (StateM σ) String :=
  match commits with
  | [a, b] => fun state =>
    match (s.mergeBases a b) state with
    | (.ok [base], state) => (.ok base, state)
    | (.ok bases, state) => (.error (.ambiguous bases.length), state)
    | (.error e, state) => (.error (.store e), state)
  | _ => throw (.inputs commits.length)

/-- A failure of the store is one of access to its location. -/
def accessing {α : Type} (act : Access σ α) : Resolving σ α := fun state =>
  match act state with
  | (.ok a, state) => (.ok a, state)
  | (.error e, state) => (.error (.access s.location e), state)

/-- The first of some references that exists. -/
def firstRef : List String → Access σ (Option String)
  | [] => pure none
  | ref :: refs => do
    match ← s.resolveRef ref with
    | some hash => return some hash
    | none => firstRef refs

def candidates (options : ResolverOptions) (revision : String) : List String :=
  ["refs/heads/" ++ revision, "refs/tags/" ++ revision,
    "refs/remotes/" ++ options.remoteName ++ "/" ++ revision]

def resolveRevision (options : ResolverOptions) (revision : String) : Resolving σ String := do
  match ← s.accessing (s.firstRef (candidates options revision)) with
  | some hash => return hash
  | none =>
    match ← s.accessing (s.resolveHash revision) with
    | some hash => return hash
    | none => throw (.unresolved revision)

/-- The branches among `heads` from which the target of the notes is reached. -/
def containing (heads : List Branch) : Noting σ (List Branch) :=
  match heads with
  | [] => pure []
  | head :: rest => do
    let reached ← s.toCommitGraph.reaches head.hash
    let more ← containing rest
    return if reached then head :: more else more

def findBranches (options : ResolverOptions) (commit : String) : Resolving σ BranchSet := do
  let heads ← s.accessing (s.branches options.remoteName)
  let branches ← s.accessing fun state =>
    let (result, _, state) := s.containing heads (Reachability.toward commit, state)
    (result, state)
  return ⟨commit, branches⟩

def merging {α : Type} (act : ExceptT MergeBaseError (StateM σ) α) : Resolving σ α := fun state =>
  match act state with
  | (.ok a, state) => (.ok a, state)
  | (.error (.inputs n), state) => (.error (.inputs n), state)
  | (.error (.ambiguous n), state) => (.error (.ambiguous n), state)
  | (.error (.store e), state) => (.error (.access s.location e), state)

def resolve (options : ResolverOptions) (old new : String) :
    Resolving σ (Provenance × BranchSet) := do
  let base ← s.resolveRevision options old
  let head ← s.resolveRevision options new
  let mergeBase ← s.merging (s.mergeBase [base, head])
  let commits ← s.accessing (s.commitRange mergeBase head)
  let branches ← s.findBranches options head
  return ({ mergeBase, head, commits }, branches)

end CommitStore

end ReleaseAudit
