import ReleaseAudit.Check.Status
import ReleaseAudit.History.Provenance
import ReleaseAudit.Load
import ReleaseAudit.Toml.Parse

/-!
# Configuration

The settings of a run. A settings file may leave out any of them; the settings of the nearest file
count before those in the home directory, and these before the defaults.
-/

namespace ReleaseAudit

structure Config where
  projectKey : String := "ZZZ"
  remoteName : String := "origin"
  gitEnabled : Bool := true
  errorPolicy : ErrorPolicy := .abort
  statusRule : StatusRule := .zeroIsOk
  commitCacheSize : Nat := 1024
deriving DecidableEq, Repr

/-- What a settings file sets. -/
structure Settings where
  projectKey : Option String := none
  remoteName : Option String := none
  gitEnabled : Option Bool := none
  errorPolicy : Option ErrorPolicy := none
  statusRule : Option StatusRule := none
  commitCacheSize : Option Nat := none
deriving DecidableEq, Repr

namespace Settings

def text? : Toml → Option String
  | .string s => some s
  | _ => none

def flag? : Toml → Option Bool
  | .boolean b => some b
  | _ => none

def count? : Toml → Option Nat
  | .integer (.ofNat n) => some n
  | _ => none

/-- A choice is written as a text, or as a table whose only entry is an empty table of that name. -/
def choice? : Toml → Option String
  | .string s => some s
  | .table _ [(name, .table _ [])] => some name
  | _ => none

def errorPolicy? (t : Toml) : Option ErrorPolicy := do
  match ← choice? t with
  | "abort" => some .abort
  | "record" => some .record
  | _ => none

def statusRule? (t : Toml) : Option StatusRule := do
  match ← choice? t with
  | "zero-is-ok" => some .zeroIsOk
  | "truthy" => some .truthy
  | _ => none

/-- Sets one setting; none when there is no setting of this name or the value does not suit it. -/
def set? (s : Settings) (entry : String × Toml) : Option Settings :=
  let (name, t) := entry
  match name with
  | "project_key" => (text? t).map fun v => { s with projectKey := some v }
  | "remote_name" => (text? t).map fun v => { s with remoteName := some v }
  | "git_enabled" => (flag? t).map fun v => { s with gitEnabled := some v }
  | "error_policy" => (errorPolicy? t).map fun v => { s with errorPolicy := some v }
  | "status_rule" => (statusRule? t).map fun v => { s with statusRule := some v }
  | "commit_cache_size" => (count? t).map fun v => { s with commitCacheSize := some v }
  | _ => none

def ofToml (text : String) : Except Malformed Settings := do
  match (← Toml.parse text).foldlM set? {} with
  | some s => return s
  | none => throw ⟨.toml⟩

def load (t : FileTree) (path : String) : Except LoadError Settings := t.load .config ofToml path

end Settings

namespace Config

def merge (c : Config) (s : Settings) : Config where
  projectKey := s.projectKey.getD c.projectKey
  remoteName := s.remoteName.getD c.remoteName
  gitEnabled := s.gitEnabled.getD c.gitEnabled
  errorPolicy := s.errorPolicy.getD c.errorPolicy
  statusRule := s.statusRule.getD c.statusRule
  commitCacheSize := s.commitCacheSize.getD c.commitCacheSize

def ofToml (text : String) : Except Malformed Config :=
  (Settings.ofToml text).map ({} : Config).merge

/-- A settings file that was not read from a path has no name in messages. -/
def parseFailure (m : Malformed) : List String := ["Failed to parse config", m.message]

def ofFile (t : FileTree) (path : String) : Except LoadError Config :=
  (Settings.load t path).map ({} : Config).merge

def fileName : String := ".relgaterc"

/-- The settings files that may stand in a directory, in the order in which they are tried. -/
def candidates (directory : String) : List String :=
  [Path.join directory fileName, Path.join (Path.join directory ".relgate") fileName]

/-- The settings file nearest to a directory, in it or around it. -/
def nearest? (t : FileTree) (start : String) : Option String :=
  ((Path.upward ((t.canonical? start).getD start)).flatMap candidates).find? t.isFile

/-- The settings of the home directory; a file that is broken there sets nothing. -/
def atHome (t : FileTree) (home : Option String) : Settings :=
  match home.map (Path.join · fileName) with
  | some path =>
    if t.isFile path then
      match Settings.load t path with
      | .ok s => s
      | .error _ => {}
    else {}
  | none => {}

def load (t : FileTree) (home : Option String) (start : String) : Except LoadError Config := do
  let config := ({} : Config).merge (atHome t home)
  match nearest? t start with
  | some path => return config.merge (← Settings.load t path)
  | none => return config

def resolverOptions (c : Config) : ResolverOptions where
  remoteName := c.remoteName
  commitCacheSize := c.commitCacheSize

end Config

end ReleaseAudit
