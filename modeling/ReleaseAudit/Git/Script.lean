import ReleaseAudit.FileTree
import ReleaseAudit.Git.Repository

/-!
# Scripted git

A git program that answers commands from a table and keeps a record of them. A command that is not in
the table fails; a clone that succeeds makes its directory.
-/

namespace ReleaseAudit

structure GitCall where
  directory : String
  args : List String
deriving DecidableEq, Repr

/-- The machine that a scripted git runs on. The last call comes first. -/
structure ScriptState where
  tree : FileTree
  calls : List GitCall := []

structure GitScript where
  answers : List (List String × GitOutput)
  /-- How an argument is written in the table. -/
  written : String → String := id
  /-- The path of the temporary directory. -/
  temporary : String

namespace GitScript

def answer (s : GitScript) (args : List String) : GitOutput :=
  let args := args.map s.written
  (s.answers.lookup args).getD
    { stderr := "fatal: unscripted: " ++ Text.intercalate " " args ++ "\n", code := 128 }

def makeDirectory (tree : FileTree) (path : String) : FileTree :=
  match tree.follow (if Path.isAbsolute path then [] else tree.current) [] with
  | .ok start =>
    tree.makeDirectory (start ++ (Text.splitBy (· == '/') path.toList).filterMap fun part =>
      if part.isEmpty then none else some (String.ofList part))
  | .error _ => tree

/-- The hashes that commands of the table name or print. -/
def objects (s : GitScript) : List String :=
  s.answers.flatMap fun (args, out) =>
    args ++ (GitRepository.parseCommits out.stdout).map Commit.hash

def program (s : GitScript) : GitProgram ScriptState where
  objects := s.objects
  isPresent path := fun state => (state.tree.isPresent path, state)
  makeTemporary := fun state =>
    (s.temporary, { state with tree := makeDirectory state.tree s.temporary })
  run directory args := fun state =>
    match state.tree.find directory with
    | .error e => (.error e, state)
    | .ok (_, .file _) => (.error .notDirectory, state)
    | .ok (l, .directory) =>
      let state := { state with calls := ⟨FileTree.pathOf l, args⟩ :: state.calls }
      let out := s.answer args
      let state :=
        if args.head? == some "clone" && out.code = 0 then
          { state with tree := makeDirectory state.tree (args.getLast?.getD "") }
        else state
      (.ok out, state)

end GitScript

end ReleaseAudit
