import ReleaseAudit.Decimal.Numeral
import ReleaseAudit.Text.Alphabet
import ReleaseAudit.Token

/-!
# Scanning

`Reading.of` looks at the characters in front and tells what stands there and how many characters it
takes, whatever its position. `scan` repeats it to the end of the text and adds the spans.
-/

namespace ReleaseAudit

inductive ScanError where
  /-- A character that starts no token. -/
  | stray (found : Char) (span : Span)
  /-- Half of an operator that is written with two characters. -/
  | incomplete (found : Char) (whole : String) (span : Span)
  | unterminatedString (span : Span)
  | malformedNumber (text : String) (span : Span)
deriving DecidableEq, Repr

namespace ScanError

def span : ScanError → Span
  | stray _ s | incomplete _ _ s | unterminatedString s | malformedNumber _ s => s

def message : ScanError → String
  | stray c _ => "unexpected character '" ++ String.singleton c ++ "'"
  | incomplete c whole _ =>
    "unexpected character '" ++ String.singleton c ++ "' (did you mean '" ++ whole ++ "'?)"
  | unterminatedString _ => "unterminated string literal"
  | malformedNumber text _ => "invalid number: '" ++ text ++ "'"

end ScanError

def isNameStart (c : Char) : Bool := Text.isAlphabetic c || c == '_' || c == '$'

def isNamePart (c : Char) : Bool := Text.isAlphanumeric c || c == '_' || c == '$'

/-- What the first characters of a text are, each with the number of characters it takes. -/
inductive Reading where
  /-- White space or a comment. -/
  | gap (size : Nat)
  | token (token : Token) (size : Nat)
  | incomplete (whole : String)
  | unterminatedString (size : Nat)
  | malformedNumber (text : String) (size : Nat)
  | stray

namespace Reading

/-- The characters up to the end of the line. -/
def comment (cs : List Char) : Reading := gap (cs.takeWhile (· != '\n')).length

def unescape : Char → Char
  | 'n' => '\n'
  | 't' => '\t'
  | 'r' => '\r'
  | c => c

/-- The content of a string literal and the number of characters up to and including the closing
quote; none when there is no closing quote. -/
def stringBody? (quote : Char) : List Char → Option (List Char × Nat)
  | [] => none
  | '\\' :: [] => none
  | '\\' :: c :: cs => (stringBody? quote cs).map fun (s, n) => (unescape c :: s, n + 2)
  | c :: cs =>
    if c == quote then some ([], 1)
    else (stringBody? quote cs).map fun (s, n) => (c :: s, n + 1)

def stringLiteral (quote : Char) (cs : List Char) : Reading :=
  match stringBody? quote cs with
  | some (s, n) => token (.string (String.ofList s)) (n + 1)
  | none => unterminatedString (cs.length + 1)

/-- The numeral in front of a text without its underscores, and the number of characters it takes. A
point belongs to it when a digit follows and there is no other point, an exponent mark when there is
no other. -/
def numeral (point mark : Bool) : List Char → List Char × Nat
  | [] => ([], 0)
  | c :: cs =>
    if c.isDigit then
      let (text, n) := numeral point mark cs
      (c :: text, n + 1)
    else if c == '_' then
      let (text, n) := numeral point mark cs
      (text, n + 1)
    else if c == '.' && !point && (cs.head?.any Char.isDigit) then
      let (text, n) := numeral true mark cs
      (c :: text, n + 1)
    else if (c == 'e' || c == 'E') && !mark then
      match cs with
      | [] => (['e'], 1)
      | d :: ds =>
        if d == '+' || d == '-' then
          let (text, n) := numeral point true ds
          ('e' :: d :: text, n + 2)
        else
          let (text, n) := numeral point true (d :: ds)
          ('e' :: text, n + 1)
    else ([], 0)

def numberLiteral (cs : List Char) : Reading :=
  let (text, n) := numeral false false cs
  match (cs.drop n).head?.filter (fun c => Text.isAlphabetic c || c == '_') with
  | some c => malformedNumber (String.ofList (text ++ [c])) n
  | none =>
    match Decimal.read? text with
    | some x => token (.number x) n
    | none => malformedNumber (String.ofList text) n

def word (cs : List Char) : Reading :=
  let text := cs.takeWhile isNamePart
  token (.ofWord (String.ofList text)) text.length

/-- An operator of one character, or of two when `second` follows. -/
def oneOrTwo (one : Token) (second : Char) (two : Token) (rest : List Char) : Reading :=
  if rest.head? == some second then token two 2 else token one 1

/-- An operator that is written with the same character twice. -/
def twice (c : Char) (t : Token) (rest : List Char) : Reading :=
  if rest.head? == some c then token t 2 else incomplete (String.ofList [c, c])

def single? : Char → Option Token
  | '+' => some .plus
  | '-' => some .minus
  | '*' => some .star
  | '%' => some .percent
  | '?' => some .question
  | ':' => some .colon
  | '\x7b' => some .leftBrace
  | '\x7d' => some .rightBrace
  | '[' => some .leftBracket
  | ']' => some .rightBracket
  | '(' => some .leftParen
  | ')' => some .rightParen
  | '.' => some .dot
  | ',' => some .comma
  | _ => none

/-- Reads the text `c :: rest`. -/
def of (c : Char) (rest : List Char) : Reading :=
  match c with
  | ' ' | '\t' | '\r' | '\n' => gap 1
  | '#' => comment (c :: rest)
  | '"' | '\'' => stringLiteral c rest
  | '=' =>
    if rest.head? == some '=' then token .eq 2
    else if rest.head? == some '>' then token .arrow 2
    else incomplete "=="
  | '!' => oneOrTwo .notKey '=' .ne rest
  | '<' => oneOrTwo .lt '=' .le rest
  | '>' => oneOrTwo .gt '=' .ge rest
  | '&' => twice '&' .andKey rest
  | '|' => twice '|' .orKey rest
  | '/' => if rest.head? == some '/' then comment (c :: rest) else token .slash 1
  | _ =>
    match single? c with
    | some t => token t 1
    | none =>
      if c.isDigit then numberLiteral (c :: rest)
      else if isNameStart c then word (c :: rest)
      else stray

end Reading

abbrev Tokens := List (Located Token)

/-- Scans `cs`, whose first character is at `p`. Every step takes at least one character. -/
def scanFrom (p : Position) (cs : List Char) : Except ScanError Tokens :=
  match cs with
  | [] => .ok []
  | c :: rest =>
    let spanOf (n : Nat) := Span.between p (p.advanceAll ((c :: rest).take n))
    let after (n : Nat) :=
      scanFrom (p.advanceAll ((c :: rest).take (n - 1 + 1))) (rest.drop (n - 1))
    match Reading.of c rest with
    | .gap n => after n
    | .token t n => (after n).map (⟨t, spanOf n⟩ :: ·)
    | .incomplete whole => .error (.incomplete c whole (spanOf 1))
    | .unterminatedString n => .error (.unterminatedString (spanOf n))
    | .malformedNumber text n => .error (.malformedNumber text (spanOf n))
    | .stray => .error (.stray c (.firstByte p))
termination_by cs.length
decreasing_by simp only [List.length_cons, List.length_drop]; omega

def scan (source : String) : Except ScanError Tokens := scanFrom .origin source.toList

end ReleaseAudit
