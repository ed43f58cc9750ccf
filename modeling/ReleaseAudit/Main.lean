import ReleaseAudit.Program

/-!
# Command line program

Reads the files that a run may need into memory, runs the program on them and writes what it leaves
behind. These files are the ones below the working directory, settings around it and at home, and those
that arguments name. Commands of git are not available here.
-/

namespace ReleaseAudit.Main

/-- The location of a path seen from the working directory. -/
def locate (here path : String) : Location :=
  (Text.splitBy (· == '/') (Path.join here path).toList).foldl (fun l part =>
    if part.isEmpty || part == ['.'] then l
    else if part == ['.', '.'] then l.dropLast
    else l ++ [String.ofList part]) []

def readFile (here : String) (t : FileTree) (path : String) : IO FileTree := do
  try return t.addFile (locate here path) (← IO.FS.readBinFile path)
  catch _ => return t

/-- Adds what is at a path and below it. A link to a directory is passed over. -/
partial def readTree (here : String) (t : FileTree) (path : String) : IO FileTree := do
  let directory := (← IO.currentDir) / path
  if !(← directory.isDir) then readFile here t path
  else if (← IO.FS.realPath directory) != directory then return t
  else
    let t := t.makeDirectory (locate here path)
    (← directory.readDir).foldlM (fun t entry => readTree here t entry.path.toString) t

/-- The paths of settings files that count in the working directory. -/
def settings (here : String) (home : Option String) : List String :=
  (Path.upward here).flatMap Config.candidates ++ (home.map (Path.join · Config.fileName)).toList

/-- An option and its value may stand in one argument. -/
def named (argument : String) : List String :=
  (Text.cutAtLast? (· == '=') argument.toList).elim [argument] fun (_, value) =>
    [argument, String.ofList value]

def withoutGit (t : FileTree) : GitProgram Unit where
  run _ _ := pure (.error .notFound)
  makeTemporary := pure "/tmp"
  isPresent path := pure (t.isPresent path)
  objects := []

def consulted : List String :=
  ["HOME", "GIT_USERNAME", "GIT_PASSWORD", "NO_COLOR", "CLICOLOR", "CLICOLOR_FORCE"]

end ReleaseAudit.Main

open ReleaseAudit in
def main (args : List String) : IO UInt32 := do
  let here := (← IO.currentDir).toString
  let values ← Main.consulted.mapM fun name => return (name, ← IO.getEnv name)
  let getVar? (name : String) : Option String := (values.lookup name).join
  let bare : FileTree := { nodes := [], current := Main.locate here here }
  let below ← Main.readTree here bare here
  let around ← (Main.settings here (getVar? "HOME")).foldlM (Main.readFile here) below
  let files ← (args.flatMap Main.named).foldlM (Main.readFile here) around
  let isTerminal ← (← IO.getStdout).isTty
  let host : Host Unit := { files, getVar?, isTerminal, git := Main.withoutGit files }
  let (exit, _) := (Program.run host args).run ()
  if let some path := exit.written then
    if let .ok content := exit.files.readText path then IO.FS.writeFile path content
  IO.print exit.stdout
  IO.eprint exit.stderr
  return exit.code.toUInt32
