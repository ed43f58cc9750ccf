import ReleaseAudit.History.Graph

/-!
# Reachability

Whether a target is in the history of a commit, for many commits and one target. What has been found
out about a commit is noted and never worked out again.
-/

namespace ReleaseAudit

/-- For every commit looked at so far, whether the target is the commit itself or in its history. -/
structure Reachability where
  target : String
  notes : List (String × Bool)
deriving Repr

/-- A computation with notes about reachability; they are kept when it fails. -/
abbrev Noting (σ : Type) := ExceptT HistoryError (StateM (Reachability × σ))

namespace Reachability

variable {σ : Type} (g : CommitGraph σ)

def toward (target : String) : Reachability := ⟨target, []⟩

def note? (r : Reachability) (hash : String) : Option Bool := r.notes.lookup hash

def add (r : Reachability) (hash : String) (reached : Bool) : Reachability :=
  { r with notes := (hash, reached) :: r.notes }

def size (r : Reachability) : Nat := r.notes.length

end Reachability

namespace Noting

variable {σ : Type}

def access {α : Type} (act : Access σ α) : Noting σ α := fun (r, s) =>
  let (result, s) := act s
  (result, (r, s))

def notes : Noting σ Reachability := do return (← get).1

def record (hash : String) (reached : Bool) : Noting σ Unit :=
  modify fun (r, s) => (r.add hash reached, s)

end Noting

namespace CommitGraph

variable {σ : Type} (g : CommitGraph σ)

mutual

/-- Notes whether the target is in the history of `hash`, after doing so for its parents. The commits
between the start and `hash` are `above`. -/
def explore (above : List String) (hash : String) : Noting σ Unit := do
  let notes ← Noting.notes
  if (notes.note? hash).isSome then pure ()
  else if hash = notes.target then Noting.record hash true
  else if ha : hash ∈ above then throw (.cyclic hash)
  else
    let ⟨commit, hk⟩ ← Noting.access (g.fetch hash)
    have := Walk.left_lt hk ha
    exploreAll (hash :: above) commit.parents
    let notes ← Noting.notes
    Noting.record hash (commit.parents.any fun p => notes.note? p == some true)
termination_by (Walk.left g.known above, 0)

def exploreAll (above : List String) (hashes : List String) : Noting σ Unit :=
  match hashes with
  | [] => pure ()
  | hash :: rest => do
    explore above hash
    exploreAll above rest
termination_by (Walk.left g.known above, hashes.length + 1)

end

/-- Whether the target is `start` or in its history. -/
def reaches (start : String) : Noting σ Bool := do
  g.explore [] start
  return ((← Noting.notes).note? start).getD false

end CommitGraph

end ReleaseAudit
