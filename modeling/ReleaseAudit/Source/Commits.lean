import ReleaseAudit.Component
import ReleaseAudit.Source

/-!
# Commits as a data source

What lies between the old and the new revision of every component that differs between two releases,
under the name `git`. The source gathers one component after the other, and contributes nothing until it
has gathered all of them.
-/

namespace ReleaseAudit

/-- A component that differs between two releases, with the history between its revisions. -/
structure ComponentHistory where
  name : String
  change : ComponentChange
  mergeBase : String
  commits : List Commit
  branches : List String
deriving Repr

/-- Resolves the URL and the revisions of a component. -/
abbrev Resolver (σ : Type) := (url old new : String) → Resolving σ (Provenance × BranchSet)

namespace Commit

def toValue (c : Commit) : Value :=
  .map (Dict.ofList [
    ("hash", .string c.hash),
    ("message", .string c.message),
    ("parents", .ofStrings c.parents),
    ("author", .string c.author)])

end Commit

namespace ComponentHistory

variable {σ : Type}

def toValue (c : ComponentHistory) : Value :=
  .map (Dict.ofList [
    ("name", .string c.name),
    ("url", .string c.change.url),
    ("old", .string c.change.oldRevision),
    ("new", .string c.change.newRevision),
    ("mergeBase", .string c.mergeBase),
    ("commits", .list (c.commits.map Commit.toValue)),
    ("branches", .ofStrings c.branches)])

/-- What has been found between the revisions of a component. -/
def between (change : ComponentChange) (found : Provenance × BranchSet) : ComponentHistory where
  name := Component.name change.url
  change := change
  mergeBase := found.1.mergeBase
  commits := found.1.commits
  branches := found.2.names

/-- The history of one component. -/
def ofChange (resolve : Resolver σ) (change : ComponentChange) :
    ExceptT SourceError (StateM σ) ComponentHistory := fun state =>
  match resolve change.url change.oldRevision change.newRevision state with
  | (.ok found, state) => (.ok (between change found), state)
  | (.error e, state) => (.error (.component (Component.name change.url) e), state)

/-- The histories of the components that differ, in the order of the new release. -/
def ofReleases (resolve : Resolver σ) (old new : Release) :
    ExceptT SourceError (StateM σ) (List ComponentHistory) :=
  (Component.changed old.components new.components).mapM (ofChange resolve)

/-- All histories as checks see them. The branch is the new revision of the last component, and commit
messages are valid when they begin with the key of the project and a hyphen. -/
def summary (projectKey : String) (histories : List ComponentHistory) : Value :=
  .map (Dict.ofList [
    ("branch", .string ((histories.getLast?.map (·.change.newRevision)).getD "")),
    ("commits", .list ((histories.flatMap (·.commits)).map Commit.toValue)),
    ("branches", .ofStrings (distinct (histories.flatMap (·.branches)))),
    ("components", .list (histories.map toValue)),
    ("validCommitMsg", .function (.validCommitMsg (projectKey ++ "-")))])
where
  /-- Keeps the first of equal names. -/
  distinct (names : List String) : List String :=
    (names.foldl (fun found name => if name ∈ found then found else name :: found) []).reverse

end ComponentHistory

/-- A source of commits: what it has gathered, and what it contributes. -/
structure CommitSource where
  histories : List ComponentHistory := []
  value : Value := .null
deriving Repr

namespace CommitSource

variable {σ : Type}

/-- Keeps the history of one component. -/
def gather (resolve : Resolver σ) (change : ComponentChange) :
    ExceptT SourceError (StateM (CommitSource × σ)) Unit := fun (source, state) =>
  match ComponentHistory.ofChange resolve change state with
  | (.ok history, state) =>
    (.ok (), { source with histories := source.histories ++ [history] }, state)
  | (.error e, state) => (.error e, source, state)

/-- What is gathered stays when a component fails, but is not contributed. -/
def load (resolve : Resolver σ) (projectKey : String) (old new : Release) :
    ExceptT SourceError (StateM (CommitSource × σ)) Unit := do
  (Component.changed old.components new.components).forM (gather resolve)
  modify fun (source, state) =>
    ({ source with value := ComponentHistory.summary projectKey source.histories }, state)

def contribute (source : CommitSource) : Value := source.value

end CommitSource

/-- A new source of commits, which is loaded once. -/
def commitSource {σ : Type} (resolve : Resolver σ) (projectKey : String) : DataSource σ where
  name := "git"
  load old new := fun state =>
    match CommitSource.load resolve projectKey old new ({}, state) with
    | (.ok (), source, state) => (.ok source.contribute, state)
    | (.error e, _, state) => (.error e, state)

end ReleaseAudit
