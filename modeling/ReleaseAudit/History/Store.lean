import ReleaseAudit.Dict
import ReleaseAudit.History.Reachability
import ReleaseAudit.Text.Search

/-!
# Commit stores

A commit store is a commit graph with names: references and abbreviated hashes that stand for commits,
and branches of a remote. A memory repository keeps all of it in dictionaries.
-/

namespace ReleaseAudit

structure Branch where
  name : String
  hash : String
deriving DecidableEq, Repr

structure CommitStore (σ : Type) extends CommitGraph σ where
  location : String
  resolveRef : (ref : String) → Access σ (Option String)
  resolveHash : (hash : String) → Access σ (Option String)
  /-- The branch heads of a remote, or the local ones when there is no such remote. -/
  branches : (remote : String) → Access σ (List Branch)
  /-- The best common ancestors of two commits, sorted. -/
  mergeBases : (a b : String) → Access σ (List String)
  /-- The commits in the history of `head` and not in that of `base`, newest first. -/
  commitRange : (base head : String) → Access σ (List Commit)

structure MemoryRepository where
  location : String
  commits : Dict Commit := []
  refs : Dict String := []
deriving Repr

namespace MemoryRepository

def insert (r : MemoryRepository) (commit : Commit) : MemoryRepository :=
  { r with commits := r.commits.insert commit.hash commit }

def defaultAuthor : String := "relgate <relgate@localhost>"

def addCommit (r : MemoryRepository) (hash : String) (parents : List String) (message : String) :
    MemoryRepository :=
  r.insert { hash, message, parents, author := defaultAuthor }

def setRef (r : MemoryRepository) (ref hash : String) : MemoryRepository :=
  { r with refs := r.refs.insert ref hash }

def fetch (r : MemoryRepository) (hash : String) :
    Except HistoryError { _c : Commit // hash ∈ r.commits.keys } :=
  match h : r.commits.get? hash with
  | some commit => .ok ⟨commit, by
      obtain ⟨a, b, hab, _⟩ := List.lookup_eq_some_iff.1 h
      simp [Dict.keys, hab]⟩
  | none => .error (.missingCommit hash r.location)

/-- A hash stands for itself, and a beginning of at least four bytes for the only hash that has it. -/
def resolveHash (r : MemoryRepository) (text : String) : Option String :=
  if r.commits.contains text then some text
  else
    match r.commits.keys.filter fun hash => Text.startsWith hash.toList text.toList with
    | [hash] => if 4 ≤ text.utf8ByteSize then some hash else none
    | _ => none

/-- The references below `start`, named by what follows it. -/
def headsBelow (r : MemoryRepository) (start : String) : List Branch :=
  r.refs.filterMap fun (ref, hash) =>
    (Text.stripPrefix? start.toList ref.toList).map fun name => ⟨String.ofList name, hash⟩

def branches (r : MemoryRepository) (remote : String) : List Branch :=
  let heads := r.headsBelow ("refs/remotes/" ++ remote ++ "/")
  if heads.isEmpty then r.headsBelow "refs/heads/" else heads

def graph (r : MemoryRepository) : CommitGraph Unit where
  known := r.commits.keys
  fetch hash := liftExcept (r.fetch hash)
where
  liftExcept {α : Type} (result : Except HistoryError α) : Access Unit α := fun s => (result, s)

def store (r : MemoryRepository) : CommitStore Unit where
  toCommitGraph := r.graph
  location := r.location
  resolveRef ref := pure (r.refs.get? ref)
  resolveHash text := pure (r.resolveHash text)
  branches remote := pure (r.branches remote)
  mergeBases := r.graph.mergeBases
  commitRange := r.graph.commitRange

end MemoryRepository

end ReleaseAudit
