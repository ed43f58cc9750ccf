import ReleaseAudit.Value.Access

/-!
# Builtin functions

Functions of one argument that every expression may call. A name of the environment hides a builtin
of the same name.
-/

namespace ReleaseAudit

inductive Builtin where
  | keys | len | lower | number | string | upper
deriving DecidableEq, Repr

namespace Builtin

/-- In the order of their names. -/
def all : List Builtin := [keys, len, lower, number, string, upper]

def name : Builtin → String
  | keys => "keys"
  | len => "len"
  | lower => "lower"
  | number => "number"
  | string => "string"
  | upper => "upper"

def ofName? (name : String) : Option Builtin := all.find? (·.name == name)

def apply : Builtin → Value → Except Fault Value
  | keys, .map entries => .ok (.ofStrings (Dict.keys entries))
  | keys, v => .error (.noKeys v.kind)
  | len, .string s => .ok (.ofLength s.length)
  | len, .list items => .ok (.ofLength items.length)
  | len, .map entries => .ok (.ofLength entries.length)
  | len, .null => .ok (.ofLength 0)
  | len, v => .error (.noLength v.kind)
  | lower, v => v.toText.map fun s => .string (Text.lower s)
  | number, .bool b => .ok (.ofLength (if b then 1 else 0))
  | number, v => v.toNumber.map .number
  | string, v => .ok (.string v.display)
  | upper, v => v.toText.map fun s => .string (Text.upper s)

def call (b : Builtin) (args : List Value) : Except Fault Value :=
  match args with
  | [v] => b.apply v
  | _ => .error (.oneArgument b.name args.length)

end Builtin

end ReleaseAudit
