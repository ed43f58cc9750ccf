import ReleaseAudit.FileError
import ReleaseAudit.Json

/-!
# Failures of loading documents

A document is loaded from a file, and fails to load when the file cannot be read or what it says is
malformed.
-/

namespace ReleaseAudit

/-- What a document is read for. -/
inductive DocumentRole where
  | checks | release | data | config
deriving DecidableEq, Repr

inductive LoadError where
  | unreadable (role : DocumentRole) (path : String) (cause : FileError)
  | malformed (role : DocumentRole) (path : String) (cause : Malformed)
deriving DecidableEq, Repr

namespace LoadError

def unreadableMessage (path : String) : DocumentRole → String
  | .checks => "Failed to read " ++ path
  | .release => "Failed to read release descriptor: " ++ path
  | .data => "Failed to read data file: " ++ path
  | .config => "Failed to read config file: " ++ path

def malformedMessage (path : String) (format : DocumentFormat) : DocumentRole → String
  | .checks => "Invalid check file " ++ path
  | .release => "Invalid release descriptor: " ++ path
  | .data => if format = .json then "Invalid JSON in " ++ path else "Invalid YAML in " ++ path
  | .config => "Failed to parse " ++ path

/-- The message and what caused it, outermost first. -/
def chain : LoadError → List String
  | unreadable role path cause => [unreadableMessage path role, cause.message]
  | malformed role path cause => [malformedMessage path cause.format role, cause.message]

end LoadError

end ReleaseAudit
