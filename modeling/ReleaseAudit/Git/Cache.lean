import ReleaseAudit.History.Graph

/-!
# Commit caches

Commits at hand by their hashes, the one that was used last in front. A cache holds a limited number of
them and drops the one that has not been used for longest.
-/

namespace ReleaseAudit

abbrev CommitCache := List Commit

namespace CommitCache

def find? (c : CommitCache) (hash : String) : Option Commit := List.find? (·.hash == hash) c

def without (c : CommitCache) (hash : String) : CommitCache := c.filter (·.hash != hash)

/-- Moves a commit to the front. -/
def touch (c : CommitCache) (commit : Commit) : CommitCache := commit :: c.without commit.hash

/-- Adds a commit in front; at least one commit is kept. -/
def put (limit : Nat) (c : CommitCache) (commit : Commit) : CommitCache :=
  (c.touch commit).take (max limit 1)

end CommitCache

end ReleaseAudit
