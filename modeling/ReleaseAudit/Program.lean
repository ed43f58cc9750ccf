import ReleaseAudit.CommandLine
import ReleaseAudit.Diagnostic

/-!
# The program

A run of the program on a host: what it writes to its output and to files, and how it ends. Failed
checks are reported; only a run that does not get as far as a report ends with a failure.
-/

namespace ReleaseAudit

/-- What surrounds a run. `σ` is the state of the machine on which `git` runs. -/
structure Host (σ : Type) where
  files : FileTree
  getVar? : (name : String) → Option String
  isTerminal : Bool
  git : GitProgram σ

/-- How a run ends. -/
structure Exit where
  /-- The files after the run. -/
  files : FileTree
  /-- The path of the file that the run writes. -/
  written : Option String := none
  stdout : String := ""
  stderr : String := ""
  code : Nat := 0

namespace Program

def versionText : String := "relgate 0.0.1\n"

def usageText : String :=
  "Usage: relgate [OPTIONS] <OLD_RELEASE> <NEW_RELEASE> <CHECKS>\n"

def helpText : String :=
  "Release gate: run declarative checks between two releases\n\n" ++ usageText ++ "\n" ++
  "Arguments:\n" ++
  "  <OLD_RELEASE>  Release descriptor of the previous release\n" ++
  "  <NEW_RELEASE>  Release descriptor of the release under test\n" ++
  "  <CHECKS>       Check file; also substituted for every `import: -`\n\n" ++
  "Options:\n" ++
  "      --root <FILE>       Root check file to evaluate instead of CHECKS\n" ++
  "      --data <NAME=PATH>  Mount a JSON or YAML file under a namespace\n" ++
  "      --no-git            Skip commit provenance (no `git` namespace)\n" ++
  "      --record-errors     Record expression errors as failed results instead of aborting\n" ++
  "      --truthy-status     Use truthiness instead of the zero-value rule for non-boolean results\n" ++
  "      --format <FORMAT>   [default: text] [possible values: text, json]\n" ++
  "  -o, --output <PATH>     Write the report to a file instead of stdout\n" ++
  "  -v, --verbose...        Increase log verbosity (-v info, -vv debug)\n" ++
  "  -h, --help              Print help\n" ++
  "  -V, --version           Print version\n"

variable {σ : Type} (host : Host σ)

/-- The settings that apply in the working directory, and a warning if they could not be read. -/
def config (colours : Bool) : Config × String :=
  let home := (host.getVar? "HOME").filter (!·.isEmpty)
  match Config.load host.files home (FileTree.pathOf host.files.current) with
  | .ok config => (config, "")
  | .error e =>
    let sign := { bold := true, colour := some .yellow : Style }.paint colours "⚠"
    ({}, sign ++ " Failed to load config: " ++ ": ".intercalate e.chain ++ "\n")

def release (path : String) : Except GateError Release :=
  (Release.load host.files path).mapError (.release path)

/-- The releases and the gate that a command line asks for. -/
def plan (c : CommandLine) (config : Config) : Except GateError (Release × Release × Gate) := do
  let old ← release host c.oldRelease
  let new ← release host c.newRelease
  let login := Credentials.ofParts (host.getVar? "GIT_USERNAME") (host.getVar? "GIT_PASSWORD")
  let credentials := if config.gitEnabled then login else .anonymous
  let data ← (c.data.mapM FileSource.parse).mapError .data
  return (old, new, { config, credentials, data })

/-- The results of the checks, and what the checks print. -/
def results (c : CommandLine) (config : Config) :
    StateM σ (Except GateError (List CheckResult) × String) := do
  match plan host c config with
  | .error e => return (.error e, "")
  | .ok (old, new, gate) =>
    -- The command line brings along no functions of its own.
    letI := HostCode.none
    gate.run host.git host.files old new c.checks c.root

/-- Writes a report to a file, where it has no colours. -/
def writeReport (t : FileTree) (path : String) (format : ReportFormat) (results : List CheckResult) :
    Except GateError FileTree :=
  (t.writeBytes path (Report.render false format results).toUTF8).mapError (.report path)

/-- Hands over the report. A failure to write it is shown without colours, too. -/
def deliver (c : CommandLine) (colours : Bool) (results : List CheckResult) : Exit :=
  let format := c.format.getD .text
  match c.output with
  | none => { files := host.files, stdout := Report.render colours format results }
  | some path =>
    match writeReport host.files path format results with
    | .ok files => { files, written := some path }
    | .error e => { files := host.files, stderr := (Diagnostic.ofError e).render false, code := 1 }

def execute (c : CommandLine) : StateM σ Exit := do
  let colours := wantsColours host.getVar? host.isTerminal
  let (base, warning) := config host colours
  let (results, printed) ← results host c (c.config base)
  let exit : Exit :=
    match results with
    | .ok results => deliver host c colours results
    | .error e => { files := host.files, stderr := (Diagnostic.ofError e).render colours, code := 1 }
  return { exit with stdout := printed ++ exit.stdout, stderr := warning ++ exit.stderr }

def run (args : List String) : StateM σ Exit :=
  match CommandLine.parse args with
  | .ok c => execute host c
  | .error .help => return { files := host.files, stdout := helpText }
  | .error .version => return { files := host.files, stdout := versionText }
  | .error (.usage e) =>
    return {
      files := host.files
      stderr := "error: " ++ e.message ++ "\n\n" ++ usageText
      code := 2 }

end Program

end ReleaseAudit
