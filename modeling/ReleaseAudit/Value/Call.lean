import ReleaseAudit.Value.Access

/-!
# Host functions

Calling the functions that the surroundings of an expression provide. Three of them are known; the code
of all others belongs to the program that embeds the checks.
-/

namespace ReleaseAudit

/-- How a function of the embedding program fails: with any error, or with one that is about an
expression, which need not be the one that calls the function. -/
inductive ForeignError where
  | ordinary (text : String)
  | evaluation (text : String) (span : Option Span)
deriving DecidableEq, Repr

def ForeignError.toFailure : ForeignError → Failure
  | ordinary text => .ordinary (.reported text)
  | evaluation text span => .evaluation ⟨.reported text, span⟩

/-- The functions of the embedding program. -/
class HostCode where
  /-- How the function with this key ends on the arguments, and the text that it prints. -/
  answer (key : Nat) (args : List Value) : Except ForeignError OrderedValue × String

namespace HostCode

/-- The embedding program brings along no functions of its own. -/
@[reducible]
def none : HostCode where
  answer _ _ := (.error (.ordinary "no such function"), "")

end HostCode

namespace HostFunction

/-- Whether the message of a commit, given as a map or by itself, starts with `start`. -/
def checkMessage (start : String) (args : List Value) : Except Fault Value :=
  let check (message : String) := .ok (.bool (Text.startsWith message.toList start.toList))
  match args with
  | [.map commit] =>
    match Dict.get? commit "message" with
    | some (.string message) => check message
    | _ => .error .noMessage
  | [.string message] => check message
  | _ => .error .notCommit

def splitArgs : List Value → Except Fault Value
  | [text, sep] => do return Value.splitText (← text.toText) (← sep.toText)
  | args => .error (.splitArguments args.length)

variable [HostCode]

/-- What the code of a function comes to, and the text that it prints. -/
def answer (f : HostFunction) (args : List Value) : Except Failure Value × String :=
  match f with
  | println => (.ok .null, Text.intercalate " " (args.map Value.display) ++ "\n")
  | split => ((splitArgs args).mapError .ordinary, "")
  | validCommitMsg start => ((checkMessage start args).mapError .ordinary, "")
  | foreign _ key =>
    let (result, text) := HostCode.answer key args
    ((result.map OrderedValue.value).mapError ForeignError.toFailure, text)

/-- The result of a call and the text that it prints. -/
def call (f : HostFunction) (args : List Value) : Except Failure Value × String :=
  let (result, text) := f.answer args
  (result.mapError (Failure.ofCall f), text)

end HostFunction

end ReleaseAudit
