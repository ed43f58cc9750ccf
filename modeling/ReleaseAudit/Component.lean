import ReleaseAudit.Text.Blank
import ReleaseAudit.Text.Search

/-!
# Components

A release names its components by references `url@revision`. The revision follows the last `@`,
unless a colon follows that too.
-/

namespace ReleaseAudit

/-- A component with different revisions in two releases. -/
structure ComponentChange where
  url : String
  oldRevision : String
  newRevision : String
deriving DecidableEq, Repr

namespace Component

/-- The URL and the revision of a reference; the revision may be empty. -/
def parse (reference : String) : String × String :=
  match Text.cutAtLast? (· == '@') reference.toList with
  | some (url, revision) =>
    if url.isEmpty || revision.contains ':' then (Text.trim reference, "")
    else (String.ofList (Text.trimChars url), String.ofList (Text.trimChars revision))
  | none => (Text.trim reference, "")

/-- The last part of the path of a URL, without `.git` at its end. -/
def name (url : String) : String :=
  let path := Text.dropEndWhile (· == '/') url.toList
  let last := (Text.splitBy (fun c => c == '/' || c == ':') path).getLast?.getD path
  String.ofList ((Text.stripSuffix? ".git".toList last).getD last)

/-- The revision of the last reference with the given URL. -/
def revisionOf? (references : List (String × String)) (url : String) : Option String :=
  references.reverse.lookup url

/-- The components of both lists whose revisions differ, in the order of the new list. -/
def changed (old new : List String) : List ComponentChange :=
  let previous := old.map parse
  (new.map parse).filterMap fun (url, newRevision) =>
    match revisionOf? previous url with
    | some oldRevision =>
      if oldRevision = newRevision then none else some { url, oldRevision, newRevision }
    | none => none

end Component

end ReleaseAudit
