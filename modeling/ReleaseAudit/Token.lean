import ReleaseAudit.Decimal.Positional
import ReleaseAudit.Span

/-!
# Tokens of the expression language

A token is a keyword, an operator, a bracket, a separator, a name or a literal. `text` is its written
form and `label` how an error message calls it.
-/

namespace ReleaseAudit

inductive Token where
  | inKey | notKey | andKey | orKey | trueKey | falseKey | nullKey
  | eq | ne | lt | le | gt | ge
  | plus | minus | star | slash | percent
  | question | colon
  | leftBrace | rightBrace | leftBracket | rightBracket | leftParen | rightParen
  | dot | comma | arrow
  | name (text : String)
  | string (text : String)
  | number (value : Float)
deriving Inhabited, Repr, BEq

namespace Token

def keywords : List (String × Token) :=
  [("in", inKey), ("not", notKey), ("and", andKey), ("or", orKey), ("true", trueKey),
   ("false", falseKey), ("null", nullKey), ("nil", nullKey)]

/-- A word is a keyword or a name. -/
def ofWord (word : String) : Token := (keywords.lookup word).getD (name word)

def text : Token → String
  | inKey => "in"
  | notKey => "not"
  | andKey => "and"
  | orKey => "or"
  | trueKey => "true"
  | falseKey => "false"
  | nullKey => "null"
  | eq => "=="
  | ne => "!="
  | lt => "<"
  | le => "<="
  | gt => ">"
  | ge => ">="
  | plus => "+"
  | minus => "-"
  | star => "*"
  | slash => "/"
  | percent => "%"
  | question => "?"
  | colon => ":"
  | leftBrace => "\x7b"
  | rightBrace => "\x7d"
  | leftBracket => "["
  | rightBracket => "]"
  | leftParen => "("
  | rightParen => ")"
  | dot => "."
  | comma => ","
  | arrow => "=>"
  | name s => s
  | string s => "\"" ++ s ++ "\""
  | number x => Decimal.write x

def isKeyword : Token → Bool
  | inKey | notKey | andKey | orKey | trueKey | falseKey | nullKey => true
  | _ => false

def label (t : Token) : String :=
  match t with
  | string _ => "string " ++ t.text
  | number _ => "number " ++ t.text
  | _ => (if t.isKeyword then "keyword '" else "'") ++ t.text ++ "'"

end Token

structure Located (α : Type) where
  value : α
  span : Span
deriving Inhabited, Repr

end ReleaseAudit
