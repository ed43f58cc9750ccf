import ReleaseAudit.Check.Status
import ReleaseAudit.Json.Print
import ReleaseAudit.Terminal

/-!
# Reports

The results of a run as text for people or as JSON.
-/

namespace ReleaseAudit

inductive ReportFormat where
  | text | json
deriving DecidableEq, Repr

def ReportFormat.ofName? : String → Option ReportFormat
  | "text" => some .text
  | "json" => some .json
  | _ => none

namespace Report

/-- Names and statuses stand this many bytes apart where the names are short enough. -/
def width : Nat := 60

def statusStyle : Status → Style
  | .ok => { colour := some .green }
  | .warn => { colour := some .yellow }
  | .failed => { colour := some .red }

def dimmed : Style := { dimmed := true }

def dots (name : String) : String := String.ofList (List.replicate (max (width - name.utf8ByteSize) 1) '.')

/-- The name with the status and the comment, and the clause below them. -/
def entry (colours : Bool) (r : CheckResult) : String :=
  let status := (statusStyle r.status).paint colours r.status.text
  let comment :=
    if r.comment.isEmpty then "" else " " ++ dimmed.paint colours ("(" ++ r.comment ++ ")")
  r.name ++ dots r.name ++ status ++ comment ++ "\n    " ++ dimmed.paint colours r.reference ++ "\n"

def count (results : List CheckResult) (s : Status) : Nat := results.countP (·.status = s)

def summary (colours : Bool) (results : List CheckResult) : String :=
  if results.isEmpty then dimmed.paint colours "No checks to run"
  else
    let passed := count results .ok
    let warned := count results .warn
    let failed := count results .failed
    let worst : Status := if 0 < failed then .failed else if 0 < warned then .warn else .ok
    { statusStyle worst with bold := true }.paint colours
      (toString passed ++ " passed, " ++ toString warned ++ " warnings, " ++ toString failed ++ " failed")

def text (colours : Bool) (results : List CheckResult) : String :=
  "".intercalate (results.map (entry colours)) ++ "\n" ++ summary colours results ++ "\n"

def resultJson (r : CheckResult) : Json :=
  .object [("name", .string r.name), ("status", .string r.status.text),
    ("reference", .string r.reference), ("comment", .string r.comment)]

def json (results : List CheckResult) : String := (Json.array (results.map resultJson)).pretty ++ "\n"

def render (colours : Bool) (format : ReportFormat) (results : List CheckResult) : String :=
  match format with
  | .text => text colours results
  | .json => json results

end Report

end ReleaseAudit
