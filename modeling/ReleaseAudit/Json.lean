import ReleaseAudit.Value

/-!
# JSON data

JSON values with 64-bit floats for numbers and each key of an object once.
-/

namespace ReleaseAudit

inductive Json where
  | null
  | bool (b : Bool)
  | number (x : Float)
  | string (s : String)
  | array (items : List Json)
  | object (entries : List (String × Json))
deriving Inhabited, Repr

namespace Json

mutual

def toValue : Json → Value
  | null => .null
  | bool b => .bool b
  | number x => .number x
  | string s => .string s
  | array items => .list (itemValues items)
  | object entries => .map (entryValues entries)

def itemValues : List Json → List Value
  | [] => []
  | j :: js => toValue j :: itemValues js

def entryValues : List (String × Json) → List (String × Value)
  | [] => []
  | (k, j) :: rest => (k, toValue j) :: entryValues rest

end

def get? : Json → String → Option Json
  | object entries, key => Dict.get? entries key
  | _, _ => none

def string? : Json → Option String
  | string s => some s
  | _ => none

end Json

/-- The notations of the documents that the program reads. -/
inductive DocumentFormat where
  | json | yaml | toml
deriving DecidableEq, Repr

/-- A document that breaks the rules of its notation, or does not have the expected shape. -/
structure Malformed where
  format : DocumentFormat
deriving DecidableEq, Repr

def Malformed.message (m : Malformed) : String :=
  match m.format with
  | .json => "<json error>"
  | .yaml => "<yaml error>"
  | .toml => "<toml error>"

end ReleaseAudit
