import ReleaseAudit.Gate
import ReleaseAudit.Terminal

/-!
# Diagnostics

A failure as it is shown: its message, its causes as far as they say something new, the place in the
expression that it is about, and what may help.
-/

namespace ReleaseAudit

structure Diagnostic where
  message : String
  causes : List String
  /-- The expression that the failure is about, and the place in it. -/
  snippet : Option (String × Span) := none
  suggestion : Option String := none
  help : Option String := none
deriving Repr

namespace Diagnostic

/-- The texts that are not part of the one shown before them, which is `shown` for the first. -/
def news (shown : String) : List String → List String
  | [] => []
  | text :: rest =>
    if Text.isInfix text.toList shown.toList then news shown rest else text :: news text rest

/-- A message and its causes without repetitions. -/
def ofChain (chain : List String) : Diagnostic :=
  let message := chain.headD ""
  { message, causes := news message chain.tail }

def forCheck (d : Diagnostic) : CheckError → Diagnostic
  | .compile expression cause =>
    { d with
      snippet := cause.span?.map (expression, ·)
      suggestion := some "Check the expression syntax and the names it uses" }
  | .evaluate expression cause => { d with snippet := cause.span.map (expression, ·) }
  | .rule .. =>
    { d with help := some ("Validation clauses look like `field valid: rule`, " ++
        "e.g. `releases.new.release valid: required,semver`") }
  | .condition .. =>
    { d with
      suggestion := some "Make `cond` a comparison, e.g. `cond: len(releases.new.components) > 0`"
      help := some "A skip condition must evaluate to true or false" }
  | .cycle _ chain => { d with help := some ("Import chain: " ++ " -> ".intercalate chain) }
  | .expansion pattern _ =>
    { d with help := some (
        if Text.trim pattern = "-" then
          "`import: -` stands for the check file passed on the command line"
        else "Import patterns are globs relative to the working directory") }
  | .load .. =>
    { d with suggestion := some "Check that the file is valid YAML with a `steps` list" }

def forResolution (d : Diagnostic) : ResolveError → Diagnostic
  | .access .. =>
    { d with
      suggestion := some "Set GIT_USERNAME and GIT_PASSWORD for private repositories"
      help := some "Use --no-git to run the checks without commit data" }
  | .unresolved _ =>
    { d with help := some "Revisions are looked up as branch, tag, remote branch, then commit hash" }
  | .ambiguous _ | .inputs _ =>
    { d with help := some "The two revisions must share exactly one merge base" }

def ofError (e : GateError) : Diagnostic :=
  let d := ofChain e.chain
  match e with
  | .check cause => d.forCheck cause
  | e =>
    match e.resolution? with
    | some cause => d.forResolution cause
    | none => d

/-! ## Showing -/

def boldStyle (colour : Colour) : Style := { bold := true, colour := some colour }

/-- A part behind an empty line, with its title. -/
def hint (colours : Bool) (colour : Colour) (title : String) (text : Option String) : String :=
  match text with
  | some text => "\n" ++ (boldStyle colour).paint colours title ++ " " ++ text ++ "\n"
  | none => ""

/-- The place in the expression, below it the last of the causes. -/
def snippetText (d : Diagnostic) (colours : Bool) : String :=
  match d.snippet with
  | some (source, span) =>
    let label := d.causes.getLast?.getD d.message
    "\n" ++ { dimmed := true : Style }.paint colours (Snippet.render label source span) ++ "\n"
  | none => ""

def render (d : Diagnostic) (colours : Bool) : String :=
  let causeStyle : Style := { colour := some .yellow }
  (boldStyle .red).paint colours "error:" ++ " " ++ { bold := true : Style }.paint colours d.message ++
    "\n" ++
    "".intercalate (d.causes.map fun c => "  " ++ causeStyle.paint colours "caused by:" ++ " " ++ c ++ "\n") ++
    d.snippetText colours ++
    hint colours .green "suggestion:" d.suggestion ++
    hint colours .cyan "help:" d.help

end Diagnostic

end ReleaseAudit
