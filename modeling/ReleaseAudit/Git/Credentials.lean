import ReleaseAudit.Text.Percent
import ReleaseAudit.Text.Quoted
import ReleaseAudit.Text.Search

/-!
# Credentials

A user name and a password for repositories that are reached over HTTP. They go into a URL in front of
the host, and the password is taken out of texts that may repeat such a URL.
-/

namespace ReleaseAudit

structure Login where
  user : String
  password : String
deriving DecidableEq, Repr

/-- Without a login access is anonymous. -/
structure Credentials where
  login : Option Login := none
deriving DecidableEq, Repr

namespace Credentials

def anonymous : Credentials := {}

def isAnonymous (c : Credentials) : Bool := c.login.isNone

/-- Both parts have to be set to something. -/
def ofParts (user password : Option String) : Credentials where
  login := do
    let user ← user.filter (!·.isEmpty)
    let password ← password.filter (!·.isEmpty)
    return { user, password }

def schemeEnd : List Char := "://".toList

/-- The parts of a URL in front of and behind the end of its scheme. -/
def cutScheme? (url : List Char) : Option (List Char × List Char) :=
  match Text.splitOn schemeEnd url with
  | scheme :: more :: rest => some (scheme, Text.join schemeEnd (more :: rest))
  | _ => none

/-- The URL with the login in front of the host. -/
def apply (c : Credentials) (url : String) : String :=
  match c.login, cutScheme? url.toList with
  | some login, some (scheme, rest) =>
    let user := Text.percentEncode login.user.toList
    let password := Text.percentEncode login.password.toList
    String.ofList (scheme ++ schemeEnd ++ user ++ [':'] ++ password ++ ['@'] ++ rest)
  | _, _ => url

def stars : List Char := ['*', '*', '*']

/-- The text with stars in place of the password, as it is and as it stands in a URL. -/
def redact (c : Credentials) (text : String) : String :=
  match c.login with
  | some login =>
    let password := login.password.toList
    if password.isEmpty then text
    else
      let text := Text.replace (Text.percentEncode password) stars text.toList
      String.ofList (Text.replace password stars text)
  | none => text

def describePart : Option String → String
  | some text => "Some(" ++ Text.quoted text ++ ")"
  | none => "None"

/-- The credentials as diagnostics show them, without the password. -/
def describe (c : Credentials) : String :=
  "Credentials \x7b username: " ++ describePart (c.login.map (·.user)) ++ ", password: " ++
    describePart (c.login.map fun _ => String.ofList stars) ++ " \x7d"

end Credentials

end ReleaseAudit
