import ReleaseAudit.Config
import ReleaseAudit.Report

/-!
# The command line

Three arguments name the releases and the check file; options stand anywhere between them, and none
behind `--`. A value stands behind its option, as the next argument or joined to it. The arguments are
read from left to right, and the first fault or request for help decides.
-/

namespace ReleaseAudit

/-- Options without a value. -/
inductive Switch where
  | noGit | recordErrors | truthyStatus | verbose | help | version
deriving DecidableEq, Repr

/-- Options with a value. -/
inductive Setting where
  | root | data | format | output
deriving DecidableEq, Repr

inductive CommandOption where
  | switch (s : Switch)
  | setting (s : Setting)
deriving DecidableEq, Repr

namespace CommandOption

def ofLong? : String → Option CommandOption
  | "root" => some (.setting .root)
  | "data" => some (.setting .data)
  | "format" => some (.setting .format)
  | "output" => some (.setting .output)
  | "no-git" => some (.switch .noGit)
  | "record-errors" => some (.switch .recordErrors)
  | "truthy-status" => some (.switch .truthyStatus)
  | "verbose" => some (.switch .verbose)
  | "help" => some (.switch .help)
  | "version" => some (.switch .version)
  | _ => none

def ofLetter? : Char → Option CommandOption
  | 'o' => some (.setting .output)
  | 'v' => some (.switch .verbose)
  | 'h' => some (.switch .help)
  | 'V' => some (.switch .version)
  | _ => none

end CommandOption

def Switch.name : Switch → String
  | noGit => "--no-git"
  | recordErrors => "--record-errors"
  | truthyStatus => "--truthy-status"
  | verbose => "--verbose"
  | help => "--help"
  | version => "--version"

def Setting.name : Setting → String
  | root => "--root <FILE>"
  | data => "--data <NAME=PATH>"
  | format => "--format <FORMAT>"
  | output => "--output <PATH>"

inductive UsageError where
  | unknown (argument : String)
  | missingValue (s : Setting)
  | surplusValue (s : Switch)
  | repeated (name : String)
  | badValue (name value : String)
  | missingArguments

def UsageError.message : UsageError → String
  | unknown argument => "unexpected argument '" ++ argument ++ "' found"
  | missingValue s => "a value is required for '" ++ s.name ++ "' but none was supplied"
  | surplusValue s => "unexpected value for '" ++ s.name ++ "' found; no more were expected"
  | repeated name => "the argument '" ++ name ++ "' cannot be used multiple times"
  | badValue name value => "invalid value '" ++ value ++ "' for '" ++ name ++ "'"
  | missingArguments => "the following required arguments were not provided"

structure CommandOptions where
  root : Option String := none
  data : List String := []
  noGit : Bool := false
  recordErrors : Bool := false
  truthyStatus : Bool := false
  format : Option ReportFormat := none
  output : Option String := none
  verbosity : Nat := 0
deriving Repr

structure CommandLine extends CommandOptions where
  oldRelease : String
  newRelease : String
  checks : String
deriving Repr

namespace CommandLine

/-- What ends the reading early. -/
inductive Stop where
  | help
  | version
  | usage (e : UsageError)

/-- What has been read. -/
structure Progress extends CommandOptions where
  arguments : List String := []

/-- An argument by its form. -/
inductive Word where
  | endOfOptions
  | long (name : List Char) (value : Option (List Char))
  | letters (cs : List Char)
  | plain (text : String)

/-- A lone dash is no option. -/
def Word.ofText (text : String) : Word :=
  match text.toList with
  | ['-', '-'] => .endOfOptions
  | '-' :: '-' :: rest =>
    match Text.cutAt? (· == '=') rest with
    | some (name, value) => .long name (some value)
    | none => .long rest none
  | '-' :: c :: rest => .letters (c :: rest)
  | _ => .plain text

namespace Progress

def wrong {α : Type} (e : UsageError) : Except Stop α := .error (.usage e)

/-- A setting that counts once. -/
def once {α : Type} (name : String) (old : Option α) (new : α) : Except Stop (Option α) :=
  match old with
  | some _ => wrong (.repeated name)
  | none => .ok (some new)

def path (name value : String) : Except Stop String :=
  if value.isEmpty then wrong (.badValue name value) else .ok value

def set (p : Progress) (s : Setting) (value : String) : Except Stop Progress := do
  match s with
  | .root => return { p with root := ← once s.name p.root (← path s.name value) }
  | .data => return { p with data := p.data ++ [value] }
  | .format =>
    match ReportFormat.ofName? value with
    | some format => return { p with format := ← once s.name p.format format }
    | none => wrong (.badValue s.name value)
  | .output => return { p with output := ← once s.name p.output (← path s.name value) }

def turn (p : Progress) (s : Switch) : Except Stop Progress := do
  let once (isOn : Bool) : Except Stop Bool :=
    if isOn then wrong (.repeated s.name) else .ok true
  match s with
  | .noGit => return { p with noGit := ← once p.noGit }
  | .recordErrors => return { p with recordErrors := ← once p.recordErrors }
  | .truthyStatus => return { p with truthyStatus := ← once p.truthyStatus }
  | .verbose => return { p with verbosity := p.verbosity + 1 }
  | .help => throw .help
  | .version => throw .version

/-- The third argument is a path. -/
def argument (p : Progress) (text : String) : Except Stop Progress := do
  match p.arguments.length with
  | 0 | 1 => return { p with arguments := p.arguments ++ [text] }
  | 2 => return { p with arguments := p.arguments ++ [← path "<CHECKS>" text] }
  | _ => wrong (.unknown text)

/-- Reads letters behind one dash. A setting takes the letters behind it for its value; without any it
waits for the next argument. -/
def letters (p : Progress) : List Char → Except Stop (Progress × Option Setting)
  | [] => return (p, none)
  | c :: rest => do
    match CommandOption.ofLetter? c with
    | none => wrong (.unknown (String.ofList ['-', c]))
    | some (.switch s) => letters (← p.turn s) rest
    | some (.setting s) =>
      match rest with
      | [] => return (p, some s)
      | '=' :: value | value => return (← p.set s (String.ofList value), none)

/-- Reads arguments while a setting may be waiting for its value. -/
def read (p : Progress) : Option Setting → List String → Except Stop Progress
  | none, [] => return p
  | some s, [] => wrong (.missingValue s)
  | some s, text :: rest => do
    match Word.ofText text with
    | .plain value => read (← p.set s value) none rest
    | _ => wrong (.missingValue s)
  | none, text :: rest => do
    match Word.ofText text with
    | .endOfOptions => rest.foldlM argument p
    | .plain text => read (← p.argument text) none rest
    | .letters cs =>
      let (p, waiting) ← p.letters cs
      read p waiting rest
    | .long name value =>
      match CommandOption.ofLong? (String.ofList name), value with
      | none, _ => wrong (.unknown text)
      | some (.switch s), none => read (← p.turn s) none rest
      | some (.switch s), some _ => wrong (.surplusValue s)
      | some (.setting s), some value => read (← p.set s (String.ofList value)) none rest
      | some (.setting s), none => read p (some s) rest

end Progress

def parse (args : List String) : Except Stop CommandLine := do
  let p ← Progress.read {} none args
  match p.arguments with
  | [oldRelease, newRelease, checks] => return { p with oldRelease, newRelease, checks }
  | _ => throw (.usage .missingArguments)

/-- The settings of a run; the command line counts before the settings files. -/
def config (c : CommandLine) (base : Config) : Config :=
  { base with
    gitEnabled := base.gitEnabled && !c.noGit
    errorPolicy := if c.recordErrors then .record else base.errorPolicy
    statusRule := if c.truthyStatus then .truthy else base.statusRule }

end CommandLine

end ReleaseAudit
