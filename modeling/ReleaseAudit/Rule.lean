import ReleaseAudit.Value.Access

/-!
# Validation rules

A rule is a list of validators between commas, such as `required,length(3|10),matches(^ZZZ-)`. A
validator may end in `~` and a message, which has no effect. A value satisfies a rule when it
satisfies all validators, tried in order; the first that refuses the value or fails decides.
-/

namespace ReleaseAudit

structure Validator where
  name : String
  args : List String
deriving DecidableEq, Repr

inductive RuleError where
  | empty
  | unknownValidator (name : String)
  | argumentCount (validator : String) (expected found : Nat)
  | unclosed (validator argument : String)
  | notNumber (validator argument : String)
  | badPattern (validator source : String) (cause : PatternError)
  | unsupported (validator : String) (kind : Kind)
deriving DecidableEq, Repr

namespace RuleError

def badArgument (validator argument reason : String) : String :=
  "invalid argument `" ++ argument ++ "` for `" ++ validator ++ "`: " ++ reason

def message : RuleError → String
  | empty => "empty validation rule"
  | unknownValidator name => "unknown validator `" ++ name ++ "`"
  | argumentCount v expected found =>
    "validator `" ++ v ++ "` expects " ++ toString expected ++ " argument(s), got " ++ toString found
  | unclosed v argument => badArgument v argument "missing closing parenthesis"
  | notNumber v argument => badArgument v argument "not a number"
  | badPattern v source cause => badArgument v source (Fault.badPattern source cause).message
  | unsupported v kind => "validator `" ++ v ++ "` cannot check a " ++ kind.name

end RuleError

/-! ## Reading rules -/

namespace Rule

/-- The number of open parentheses behind `c`; a closing one too many does not count. -/
def depthAfter (depth : Nat) (c : Char) : Nat :=
  if c == '(' then depth + 1 else if c == ')' then depth - 1 else depth

/-- The parts between the commas outside parentheses. -/
def splitTopLevel (depth : Nat) : List Char → List (List Char)
  | [] => [[]]
  | c :: cs =>
    if c == ',' && depth == 0 then [] :: splitTopLevel depth cs
    else
      match splitTopLevel (depthAfter depth c) cs with
      | [] => [[c]]
      | part :: parts => (c :: part) :: parts

/-- The part in front of the first `~` outside parentheses. -/
def dropMessage (depth : Nat) : List Char → List Char
  | [] => []
  | c :: cs =>
    if c == '~' && depth == 0 then [] else c :: dropMessage (depthAfter depth c) cs

/-- A pattern is one argument whatever it holds; other arguments stand between bars. -/
def splitArgs (name : String) (inner : List Char) : List String :=
  if name == "matches" then [String.ofList inner]
  else (Text.splitBy (· == '|') inner).map fun arg => String.ofList (Text.trimChars arg)

def readValidator (part : List Char) : Except RuleError Validator :=
  let text := Text.trimChars (dropMessage 0 part)
  match Text.cutAt? (· == '(') text with
  | none => .ok ⟨String.ofList text, []⟩
  | some (before, behind) =>
    let name := String.ofList (Text.trimChars before)
    match Text.stripSuffix? [')'] behind with
    | some inner => .ok ⟨name, splitArgs name inner⟩
    | none => .error (.unclosed name (String.ofList ('(' :: behind)))

def parse (rule : String) : Except RuleError (List Validator) := do
  let parts := ((splitTopLevel 0 rule.toList).map Text.trimChars).filter (!·.isEmpty)
  let validators ← parts.mapM readValidator
  if validators.isEmpty then .error .empty else return validators

end Rule

/-! ## Applying validators -/

/-- Forms of text. -/
inductive TextForm where
  | email | url | alpha | alphanum | numeric | int | float | ascii | lowercase | uppercase
  | hexadecimal | uuid | semver
deriving DecidableEq, Repr

inductive ValidatorKind where
  | required | optional | length | range | «matches» | oneOf
  | form (form : TextForm)
deriving DecidableEq, Repr

namespace TextForm

def emailPattern : String :=
  "^[a-zA-Z0-9.!#$%&'*+/=?^_`\x7b|\x7d~-]+@[a-zA-Z0-9](?:[a-zA-Z0-9-]\x7b0,61\x7d[a-zA-Z0-9])?" ++
    "(?:\\.[a-zA-Z0-9](?:[a-zA-Z0-9-]\x7b0,61\x7d[a-zA-Z0-9])?)+$"

def urlPattern : String := "^(?i:https?|ftp)://[^\\s/?#.][^\\s]*$"

def uuidPattern : String :=
  "^[0-9a-fA-F]\x7b8\x7d-[0-9a-fA-F]\x7b4\x7d-[0-9a-fA-F]\x7b4\x7d-[0-9a-fA-F]\x7b4\x7d" ++
    "-[0-9a-fA-F]\x7b12\x7d$"

def semverPattern : String :=
  "^v?(0|[1-9]\\d*)\\.(0|[1-9]\\d*)\\.(0|[1-9]\\d*)" ++
    "(-(0|[1-9]\\d*|\\d*[a-zA-Z-][0-9a-zA-Z-]*)(\\.(0|[1-9]\\d*|\\d*[a-zA-Z-][0-9a-zA-Z-]*))*)?" ++
    "(\\+[0-9a-zA-Z-]+(\\.[0-9a-zA-Z-]+)*)?$"

def intPattern : String := "^[-+]?\\d+$"

def fits (source text : String) : Bool :=
  match Value.matchesPattern text source with
  | .ok b => b
  | .error _ => false

def isHexDigit (c : Char) : Bool := c.isDigit || ('a' ≤ c && c ≤ 'f') || ('A' ≤ c && c ≤ 'F')

def holds (form : TextForm) (text : String) : Bool :=
  let cs := text.toList
  match form with
  | email => fits emailPattern text
  | url => fits urlPattern text
  | alpha => cs.all Char.isAlpha
  | alphanum => cs.all Char.isAlphanum
  | numeric => cs.all Char.isDigit
  | int => fits intPattern text
  | float => (Decimal.read? (Text.trimChars cs)).any Decimal.isFinite
  | ascii => cs.all fun c => c.toNat < 128
  | lowercase => text == Text.lower text
  | uppercase => text == Text.upper text
  | hexadecimal => cs.all isHexDigit
  | uuid => fits uuidPattern text
  | semver => fits semverPattern text

end TextForm

namespace ValidatorKind

def ofName? : String → Option ValidatorKind
  | "required" => some required
  | "optional" => some optional
  | "length" => some length
  | "range" => some range
  | "matches" => some «matches»
  | "in" => some oneOf
  | "email" => some (form .email)
  | "url" => some (form .url)
  | "alpha" => some (form .alpha)
  | "alphanum" => some (form .alphanum)
  | "numeric" => some (form .numeric)
  | "int" => some (form .int)
  | "float" => some (form .float)
  | "ascii" => some (form .ascii)
  | "lowercase" => some (form .lowercase)
  | "uppercase" => some (form .uppercase)
  | "hexadecimal" => some (form .hexadecimal)
  | "uuid" => some (form .uuid)
  | "semver" => some (form .semver)
  | _ => none

/-- The number of arguments; none when any number will do. -/
def arity? : ValidatorKind → Option Nat
  | required | optional | form _ => some 0
  | «matches» => some 1
  | length | range => some 2
  | oneOf => none

end ValidatorKind

/-- Null and empty texts, lists and maps. -/
def Value.isVoid : Value → Bool
  | null => true
  | string s => s.isEmpty
  | list items => items.isEmpty
  | map entries => entries.isEmpty
  | _ => false

namespace Validator

def numberArg (v : Validator) (arg : String) : Except RuleError Float :=
  match Decimal.read? arg.toList with
  | some x => .ok x
  | none => .error (.notNumber v.name arg)

/-- The numbers that the first two arguments spell. -/
def bounds (v : Validator) : Except RuleError (Float × Float) := do
  let lo ← v.numberArg (v.args.headD "")
  let hi ← v.numberArg (v.args.tail.headD "")
  return (lo, hi)

def textOf (v : Validator) : Value → Except RuleError String
  | .string s => .ok s
  | w@(.number _) | w@(.bool _) => .ok w.display
  | w => .error (.unsupported v.name w.kind)

def lengthOf (v : Validator) : Value → Except RuleError Nat
  | .list items => .ok items.length
  | .map entries => .ok entries.length
  | w => do return (← v.textOf w).length

def within (range : Float × Float) (x : Float) : Bool := range.1 ≤ x && x ≤ range.2

/-- Looks at a value that is not void. -/
def inspect (v : Validator) (kind : ValidatorKind) (value : Value) : Except RuleError Bool :=
  match kind with
  | .required | .optional => .ok true
  | .length => do
    let range ← v.bounds
    return within range (Decimal.ofNat (← v.lengthOf value))
  | .range => do
    let text ← v.textOf value
    let range ← v.bounds
    return (Decimal.read? (Text.trimChars text.toList)).any (within range)
  | .matches => do
    let text ← v.textOf value
    let source := v.args.headD ""
    match Pattern.parse source with
    | .ok p => return p.occursIn text.toList
    | .error e => .error (.badPattern v.name source e)
  | .oneOf => do return v.args.contains (← v.textOf value)
  | .form form => do return form.holds (← v.textOf value)

/-- Every validator but `required` accepts a void value. -/
def check (v : Validator) (value : Value) : Except RuleError Bool := do
  match ValidatorKind.ofName? v.name with
  | none => .error (.unknownValidator v.name)
  | some kind =>
    match kind.arity?.filter (· != v.args.length) with
    | some expected => .error (.argumentCount v.name expected v.args.length)
    | none => if value.isVoid then return kind != .required else v.inspect kind value

def checkAll (value : Value) : List Validator → Except RuleError Bool
  | [] => .ok true
  | v :: vs => do if ← v.check value then checkAll value vs else return false

end Validator

def Rule.check (rule : String) (value : Value) : Except RuleError Bool := do
  Validator.checkAll value (← Rule.parse rule)

end ReleaseAudit
