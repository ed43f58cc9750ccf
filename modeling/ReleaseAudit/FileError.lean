/-!
# File errors

What keeps a file from being read, in the words of the operating system.
-/

namespace ReleaseAudit

inductive FileError where
  | notFound | notDirectory | isDirectory | notText
deriving DecidableEq, Repr

def FileError.message : FileError → String
  | notFound => "No such file or directory (os error 2)"
  | notDirectory => "Not a directory (os error 20)"
  | isDirectory => "Is a directory (os error 21)"
  | notText => "stream did not contain valid UTF-8"

end ReleaseAudit
