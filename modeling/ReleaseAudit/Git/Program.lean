import ReleaseAudit.History.Error
import ReleaseAudit.Text.Blank

/-!
# The git program

What is asked of the program `git`: to run a command in a directory, and a temporary directory for a
clone. `σ` is the state of the machine that it runs on.
-/

namespace ReleaseAudit

structure GitOutput where
  stdout : String := ""
  stderr : String := ""
  code : Nat := 0
deriving DecidableEq, Repr

structure GitProgram (σ : Type) where
  run : (directory : String) → (args : List String) → StateM σ (Except FileError GitOutput)
  makeTemporary : StateM σ String
  isPresent : (path : String) → StateM σ Bool
  /-- The hashes of all commits that the program may know. -/
  objects : List String

namespace GitProgram

variable {σ : Type} (git : GitProgram σ)

/-- Runs a command, whatever its exit code. -/
def output (directory : String) (args : List String) : ExceptT GitError (StateM σ) GitOutput :=
  fun state =>
    match git.run directory args state with
    | (.ok out, state) => (.ok out, state)
    | (.error e, state) => (.error (.notRun e), state)

/-- What a command that succeeds writes, without the blanks around it. -/
def capture (directory : String) (args : List String) : ExceptT GitError (StateM σ) String := do
  let out ← git.output directory args
  if out.code = 0 then return Text.trim out.stdout
  throw (.failed (Text.trim out.stderr))

end GitProgram

end ReleaseAudit
