import ReleaseAudit.FileTree
import ReleaseAudit.LoadError

/-!
# Loading documents

Reading the text of a file and then what the text says.
-/

namespace ReleaseAudit

variable {α : Type}

def FileTree.load (t : FileTree) (role : DocumentRole) (parse : String → Except Malformed α)
    (path : String) : Except LoadError α :=
  match t.readText path with
  | .error e => .error (.unreadable role path e)
  | .ok text =>
    match parse text with
    | .error e => .error (.malformed role path e)
    | .ok a => .ok a

end ReleaseAudit
