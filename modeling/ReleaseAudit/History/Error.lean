import ReleaseAudit.FileError

/-!
# Failures of commit stores

Each failure has a message and the messages of what caused it, outermost first.
-/

namespace ReleaseAudit

/-- Why a git command gave no answer. -/
inductive GitError where
  | notRun (cause : FileError)
  /-- The command ended with a status that is not zero and wrote `stderr`. -/
  | failed (stderr : String)
deriving DecidableEq, Repr

def GitError.chain : GitError → List String
  | notRun cause => ["failed to run git", cause.message]
  | failed stderr => ["Git command failed: " ++ stderr]

/-- A message with all of its causes on one line. -/
def GitError.line (e : GitError) : String := ": ".intercalate e.chain

inductive HistoryError where
  | missingCommit (hash location : String)
  /-- A commit is its own ancestor. -/
  | cyclic (hash : String)
  | unreadableCommit (hash : String) (cause : GitError)
  | git (cause : GitError)
  | missingPath (path : String)
  | notRepository (path : String) (cause : GitError)
  | cloneFailed (url stderr : String)
  | remoteUrl (remote : String) (cause : GitError)
  | fetchFailed (remote location cause : String)
  | listFailed (remote cause : String)
  | mergeBaseFailed (a b stderr : String)
  | rangeFailed (base head : String) (cause : GitError)
  | noRepository
deriving DecidableEq, Repr

def HistoryError.chain : HistoryError → List String
  | missingCommit hash location => ["commit " ++ hash ++ " not found in " ++ location]
  | cyclic hash => ["commit " ++ hash ++ " is its own ancestor"]
  | unreadableCommit hash cause => ("failed to read commit " ++ hash) :: cause.chain
  | git cause => cause.chain
  | missingPath path => ["repository path " ++ path ++ " does not exist"]
  | notRepository path cause => (path ++ " is not a git repository") :: cause.chain
  | cloneFailed url stderr => ["git clone of " ++ url ++ " failed: " ++ stderr]
  | remoteUrl remote cause => ("failed to reset URL of " ++ remote) :: cause.chain
  | fetchFailed remote location cause =>
    ["failed to fetch " ++ remote ++ " in " ++ location, cause]
  | listFailed remote cause => ["failed to list branches of " ++ remote, cause]
  | mergeBaseFailed a b stderr => ["git merge-base " ++ a ++ " " ++ b ++ " failed: " ++ stderr]
  | rangeFailed base head cause => ("failed to list commits " ++ base ++ ".." ++ head) :: cause.chain
  | noRepository => ["no such repository"]

end ReleaseAudit
