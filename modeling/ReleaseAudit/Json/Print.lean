import ReleaseAudit.Json

/-!
# Writing JSON

`compact` writes a value on one line without blanks. `pretty` gives every item and member a line of its
own, indented by two blanks for each level.
-/

namespace ReleaseAudit.Json

def hexChar (n : Nat) : Char := Char.ofNat (if n < 10 then 48 + n else 87 + n)

def escapeChar (c : Char) : List Char :=
  match c with
  | '"' => ['\\', '"']
  | '\\' => ['\\', '\\']
  | '\x08' => ['\\', 'b']
  | '\x0c' => ['\\', 'f']
  | '\n' => ['\\', 'n']
  | '\r' => ['\\', 'r']
  | '\t' => ['\\', 't']
  | c =>
    if c.toNat < 32 then ['\\', 'u', '0', '0', hexChar (c.toNat / 16), hexChar (c.toNat % 16)]
    else [c]

def quoted (s : String) : String := "\"" ++ String.ofList (s.toList.flatMap escapeChar) ++ "\""

mutual

def compact : Json → String
  | null => "null"
  | bool b => if b then "true" else "false"
  | number x => Decimal.write x
  | string s => quoted s
  | array items => "[" ++ ",".intercalate (compactItems items) ++ "]"
  | object entries => "\x7b" ++ ",".intercalate (compactEntries entries) ++ "\x7d"

def compactItems : List Json → List String
  | [] => []
  | j :: js => compact j :: compactItems js

def compactEntries : List (String × Json) → List String
  | [] => []
  | (k, j) :: rest => (quoted k ++ ":" ++ compact j) :: compactEntries rest

end

/-- Items between brackets, each on a line of its own one level below `indent`. -/
def block (left right indent : String) (items : List String) : String :=
  if items.isEmpty then left ++ right
  else
    let inner := "\n" ++ indent ++ "  "
    left ++ inner ++ ("," ++ inner).intercalate items ++ "\n" ++ indent ++ right

mutual

def prettyAt (indent : String) : Json → String
  | null => "null"
  | bool b => if b then "true" else "false"
  | number x => Decimal.write x
  | string s => quoted s
  | array items => block "[" "]" indent (prettyItems (indent ++ "  ") items)
  | object entries => block "\x7b" "\x7d" indent (prettyEntries (indent ++ "  ") entries)

def prettyItems (indent : String) : List Json → List String
  | [] => []
  | j :: js => prettyAt indent j :: prettyItems indent js

def prettyEntries (indent : String) : List (String × Json) → List String
  | [] => []
  | (k, j) :: rest => (quoted k ++ ": " ++ prettyAt indent j) :: prettyEntries indent rest

end

def pretty (j : Json) : String := prettyAt "" j

end ReleaseAudit.Json
