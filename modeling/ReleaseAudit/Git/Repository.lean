import ReleaseAudit.Git.Cache
import ReleaseAudit.Git.Credentials
import ReleaseAudit.Git.Program
import ReleaseAudit.History.Provenance

/-!
# Git repositories

A repository that the program `git` reads: a local one, or a clone in a temporary directory. Commits are
read in batches of ancestors and kept in a cache.
-/

namespace ReleaseAudit

structure GitRepository where
  location : String
  path : String
  credentials : Credentials
  cacheSize : Nat
deriving Repr

namespace GitRepository

/-! ## Reading what git writes -/

/-- Hash, parents, author and message with NUL between them, and a record separator at the end. -/
def commitFormat : String := "--format=%H%x00%P%x00%an <%ae>%x00%B%x1e"

def batchSize : String := "256"

/-- The pieces of a text between NULs, the last of at most four holding the rest. -/
def fields (cs : List Char) : List (List Char) :=
  match Text.splitBy (· == '\x00') cs with
  | a :: b :: c :: rest@(_ :: _) => [a, b, c, Text.join ['\x00'] rest]
  | pieces => pieces

def parseCommit? (record : List Char) : Option Commit :=
  let record := record.dropWhile (· == '\n')
  if record.isEmpty then none
  else
    let commit (hash parents author message : List Char) : Commit := {
      hash := String.ofList (Text.trimChars hash)
      message := String.ofList (Text.dropEndWhile (· == '\n') message)
      parents := (Text.words parents).map String.ofList
      author := String.ofList author }
    match fields record with
    | [hash, parents, author, message] => some (commit hash parents author message)
    | [hash, parents, author] => some (commit hash parents author [])
    | _ => none

def parseCommits (output : String) : List Commit :=
  (Text.splitBy (· == '\x1e') output.toList).filterMap parseCommit?

/-- A line with a hash, a separator and the reference of a branch. -/
def parseHead? (separator : Char) (line : String) : Option Branch := do
  let (hash, ref) ← Text.cutAt? (· == separator) line.toList
  let name ← Text.stripPrefix? "refs/heads/".toList (Text.trimChars ref)
  return ⟨String.ofList name, String.ofList (Text.trimChars hash)⟩

def parseHeads (output : String) (separator : Char) : List Branch :=
  (Text.lines output).filterMap (parseHead? separator)

/-! ## Commands -/

variable {σ : Type} (git : GitProgram σ) (r : GitRepository)

/-- The commits at hand, and the machine. -/
abbrev Session (σ : Type) := CommitCache × σ

/-- Runs a part of a command in a session; `wrap` tells what a failure means. -/
def running {α : Type} (wrap : GitError → HistoryError) (act : ExceptT GitError (StateM σ) α) :
    Access (Session σ) α := fun (cache, state) =>
  match act state with
  | (.ok a, state) => (.ok a, (cache, state))
  | (.error e, state) => (.error (wrap e), (cache, state))

/-- The hash that a revision stands for. -/
def verify (revision : String) : Access (Session σ) (Option String) := do
  let args := ["rev-parse", "--verify", "--quiet", revision ++ "^\x7bcommit\x7d"]
  let out ← running .git (git.output r.path args)
  if out.code ≠ 0 then return none
  let hash := Text.trim out.stdout
  return if hash.isEmpty then none else some hash

def isHexDigit (c : Char) : Bool := c.isDigit || ('a' ≤ c && c ≤ 'f') || ('A' ≤ c && c ≤ 'F')

/-- Only texts of at least four hexadecimal digits are looked up as hashes. -/
def resolveHash (text : String) : Access (Session σ) (Option String) :=
  if text.utf8ByteSize < 4 || !text.toList.all isHexDigit then pure none else r.verify git text

/-- Reads a commit and a batch of its ancestors into the cache. The commit itself is listed first. -/
def load (hash : String) : Access (Session σ) Commit := do
  let args := ["log", "-n", batchSize, commitFormat, hash, "--"]
  let output ← running (.unreadableCommit hash) (git.capture r.path args)
  let commits := parseCommits output
  modify fun (cache, state) => (commits.foldl (CommitCache.put r.cacheSize) cache, state)
  match commits with
  | commit :: _ => return commit
  | [] => throw (.missingCommit hash r.location)

def commit (hash : String) : Access (Session σ) Commit := do
  let (cache, _) ← get
  match cache.find? hash with
  | some commit =>
    modify fun (cache, state) => (cache.touch commit, state)
    return commit
  | none => r.load git hash

def graph : CommitGraph (Session σ) where
  known := git.objects
  fetch hash := do
    let commit ← r.commit git hash
    if h : hash ∈ git.objects then return ⟨commit, h⟩
    throw (.missingCommit hash r.location)

def isHttp (url : String) : Bool :=
  Text.startsWith url.toList "https://".toList || Text.startsWith url.toList "http://".toList

/-- What commands that talk to a remote are given: its URL with the login if it is reached over HTTP
and there is a login, its name otherwise. -/
def remoteTarget (remote : String) : Access (Session σ) String := do
  if r.credentials.isAnonymous then return remote
  let url ← running .git (git.capture r.path ["remote", "get-url", remote])
  return if isHttp url then r.credentials.apply url else remote

/-- The branches that a remote lists after they have been fetched. Without such a remote the local
branches count. Failures never repeat the password. -/
def branches (remote : String) : Access (Session σ) (List Branch) := do
  let remotes ← running .git (git.capture r.path ["remote"])
  if !(Text.lines remotes).any (fun line => Text.trim line == remote) then
    let output ← running .git (git.capture r.path
      ["for-each-ref", "--format=%(objectname) %(refname)", "refs/heads/"])
    return parseHeads output ' '
  let target ← r.remoteTarget git remote
  let refspec := "+refs/heads/*:refs/remotes/" ++ remote ++ "/*"
  let _ ← running (fun e => .fetchFailed remote r.location (r.credentials.redact e.line))
    (git.capture r.path ["fetch", "--quiet", target, refspec])
  let listing ← running (fun e => .listFailed remote (r.credentials.redact e.line))
    (git.capture r.path ["ls-remote", "--heads", target])
  return parseHeads listing '\t'

/-- Exit code 1 without a message means that there is no common ancestor. -/
def mergeBases (a b : String) : Access (Session σ) (List String) := do
  let out ← running .git (git.output r.path ["merge-base", "--all", a, b])
  let stderr := Text.trim out.stderr
  if out.code = 0 then
    return CommitGraph.sortHashes
      (((Text.lines out.stdout).map Text.trim).filter (!·.isEmpty))
  else if out.code = 1 && stderr.isEmpty then return []
  else throw (.mergeBaseFailed a b stderr)

def commitRange (base head : String) : Access (Session σ) (List Commit) := do
  let args := ["rev-list", "--topo-order", head, "^" ++ base, "--"]
  let listing ← running (.rangeFailed base head) (git.capture r.path args)
  ((Text.lines listing).filter (!·.isEmpty)).mapM (r.commit git)

def store : CommitStore (Session σ) where
  toCommitGraph := r.graph git
  location := r.location
  resolveRef := r.verify git
  resolveHash := r.resolveHash git
  branches := r.branches git
  mergeBases := r.mergeBases git
  commitRange := r.commitRange git

/-! ## Opening -/

/-- A local repository at a path. -/
def openPath (credentials : Credentials) (cacheSize : Nat) (path : String) : Access σ GitRepository := do
  if !(← git.isPresent path) then throw (.missingPath path)
  let _ ← ExceptT.adapt (.notRepository path) (git.capture path ["rev-parse", "--git-dir"])
  return { location := path, path, credentials, cacheSize }

/-- A clone of the repository at a URL. The login is not kept in its settings. -/
def clone (credentials : Credentials) (cacheSize : Nat) (url : String) : Access σ GitRepository := do
  let directory ← git.makeTemporary
  let path := directory ++ "/repo.git"
  let out ← ExceptT.adapt .git
    (git.output directory ["clone", "--bare", "--quiet", credentials.apply url, path])
  if out.code ≠ 0 then throw (.cloneFailed url (credentials.redact (Text.trim out.stderr)))
  let _ ← ExceptT.adapt (.remoteUrl "origin")
    (git.capture path ["remote", "set-url", "origin", url])
  return { location := url, path, credentials, cacheSize }

def «open» (credentials : Credentials) (options : ResolverOptions) (location : String) :
    Resolving σ GitRepository :=
  ExceptT.adapt (.access location) <|
    if isHttp location then clone git credentials options.commitCacheSize location
    else openPath git credentials options.commitCacheSize location

/-- Opens the repository at a URL and resolves two revisions in it. -/
def resolve (credentials : Credentials) (options : ResolverOptions) (url old new : String) :
    Resolving σ (Provenance × BranchSet) := do
  let r ← GitRepository.open git credentials options url
  fun state =>
    let (result, _, state) := (r.store git).resolve options old new ([], state)
    (result, state)

end GitRepository

end ReleaseAudit
