import ReleaseAudit.Decimal.Numeral
import ReleaseAudit.Text.Blank
import ReleaseAudit.Text.LetterCase
import ReleaseAudit.Value.Relation

/-!
# Members and methods

Reading properties and items, converting to text and to numbers, and the methods of strings, numbers,
lists and maps that take no closure.
-/

namespace ReleaseAudit

namespace Value

def toText : Value → Except Fault String
  | string s => .ok s
  | v@(number _) | v@(bool _) | v@null => .ok v.display
  | v => .error (.notText v.kind)

def toNumber : Value → Except Fault Float
  | number x => .ok x
  | string s =>
    match Decimal.read? (Text.trimChars s.toList) with
    | some x => .ok x
    | none => .error (.unreadableNumber s)
  | v => .error (.notNumeric v.kind)

def ofLength (n : Nat) : Value := number (Decimal.ofNat n)

/-- A missing key of a map is null. -/
def property (v : Value) (name : String) : Except Fault Value :=
  match v, name with
  | map entries, _ => .ok ((Dict.get? entries name).getD null)
  | string s, "length" => .ok (ofLength s.length)
  | list items, "length" => .ok (ofLength items.length)
  | _, _ => .error (.noProperty name v.kind)

/-- A negative index counts from the end. -/
def listIndex (length : Nat) (x : Float) : Int :=
  if x < 0 then length + Decimal.toInt64 x else Decimal.toInt64 x

def index (v key : Value) : Except Fault Value :=
  match v, key with
  | map entries, string k => .ok ((Dict.get? entries k).getD null)
  | list items, number x =>
    let i := listIndex items.length x
    match if i < 0 then none else items[i.toNat]? with
    | some item => .ok item
    | none => .error (.listIndex x items.length)
  | string s, number x =>
    let i := Decimal.toUInt64 x
    match s.toList[i]? with
    | some c => .ok (string (String.singleton c))
    | none => .error (.stringIndex i s.length)
  | _, _ => .error (.notIndexable v.kind key.kind)

def expectArgs (method : String) (args : List Value) (count : Nat) : Except Fault Unit :=
  if args.length = count then .ok () else .error (.argumentCount method count args.length)

def splitText (s sep : String) : Value :=
  ofStrings ((Text.splitOn sep.toList s.toList).map String.ofList)

def matchesPattern (text source : String) : Except Fault Bool :=
  match Pattern.parse source with
  | .ok p => .ok (p.occursIn text.toList)
  | .error e => .error (.badPattern source e)

def stringMethod (s name : String) (args : List Value) : Except Fault Value := do
  let nullary (v : Value) : Except Fault Value := do
    expectArgs name args 0
    return v
  let unary (f : String → Except Fault Value) : Except Fault Value := do
    expectArgs name args 1
    f (← (args.headD null).toText)
  match name with
  | "len" | "length" => nullary (ofLength s.length)
  | "isEmpty" | "is_empty" => nullary (bool s.isEmpty)
  | "lower" | "toLower" | "to_lowercase" => nullary (string (Text.lower s))
  | "upper" | "toUpper" | "to_uppercase" => nullary (string (Text.upper s))
  | "trim" => nullary (string (Text.trim s))
  | "contains" => unary fun t => .ok (bool (Text.isInfix t.toList s.toList))
  | "startsWith" | "starts_with" | "hasPrefix" =>
    unary fun t => .ok (bool (Text.startsWith s.toList t.toList))
  | "endsWith" | "ends_with" | "hasSuffix" =>
    unary fun t => .ok (bool (Text.endsWith s.toList t.toList))
  | "matches" => unary fun t => (matchesPattern s t).map bool
  | "split" => unary fun t => .ok (splitText s t)
  | "replace" =>
    expectArgs name args 2
    let old ← (args.headD null).toText
    let new ← (args.tail.headD null).toText
    return string (String.ofList (Text.replace old.toList new.toList s.toList))
  | _ => .error (.unknownMethod name .string)

def numberMethod (x : Float) (name : String) (args : List Value) : Except Fault Value := do
  expectArgs name args 0
  match name with
  | "abs" => return number x.abs
  | "floor" => return number (Decimal.floor x)
  | "ceil" => return number (Decimal.ceil x)
  | "round" => return number (Decimal.round x)
  | _ => .error (.unknownMethod name .number)

/-- The methods whose argument is a closure. -/
def isClosureMethod (name : String) : Bool :=
  ["filter", "map", "find", "any", "all", "count"].contains name

def listMethod (items : List Value) (name : String) (args : List Value) : Except Fault Value := do
  match name with
  | "len" | "length" =>
    expectArgs name args 0
    return ofLength items.length
  | "isEmpty" | "is_empty" =>
    expectArgs name args 0
    return bool items.isEmpty
  | "first" => return items.head?.getD null
  | "last" => return items.getLast?.getD null
  | "join" =>
    let sep ← ((args.head?.map toText).getD (.ok ", "))
    return string (Text.intercalate sep (items.map display))
  | "reverse" => return list items.reverse
  | "sort" => return list (sorted items)
  | "contains" | "includes" =>
    expectArgs name args 1
    return bool (items.any (equals · (args.headD null)))
  | _ =>
    if isClosureMethod name then .error (.needsClosure name)
    else .error (.unknownMethod name .list)

def mapMethod (entries : Dict Value) (name : String) (args : List Value) : Except Fault Value := do
  match name with
  | "keys" =>
    expectArgs name args 0
    return ofStrings entries.keys
  | "values" =>
    expectArgs name args 0
    return list entries.values
  | "has" | "hasKey" | "has_key" | "contains" =>
    expectArgs name args 1
    return bool (entries.contains (← (args.headD null).toText))
  | "len" | "length" =>
    expectArgs name args 0
    return ofLength entries.length
  | _ => .error (.unknownMethod name .map)

/-- The host function that the method `name` runs: a function in a map, or the function itself. -/
def hostMethod? : Value → String → Option HostFunction
  | function f, "call" => some f
  | map entries, name =>
    match Dict.get? entries name with
    | some (function f) => some f
    | _ => none
  | _, _ => none

def method (v : Value) (name : String) (args : List Value) : Except Fault Value :=
  match v with
  | string s => stringMethod s name args
  | number x => numberMethod x name args
  | list items => listMethod items name args
  | map entries => mapMethod entries name args
  | _ => .error (.noMethod name v.kind)

end Value

end ReleaseAudit
