/-!
# Percent encoding

Every byte of a text that is not a letter, a digit or one of `-_.~` is written as a percent sign and two
hexadecimal digits.
-/

namespace ReleaseAudit.Text

def hexDigit (n : Nat) : Char := if n < 10 then Char.ofNat (48 + n) else Char.ofNat (55 + n)

def isUnreserved (c : Char) : Bool := c.isAlphanum || c == '-' || c == '_' || c == '.' || c == '~'

def percentByte (b : UInt8) : List Char := ['%', hexDigit (b.toNat / 16), hexDigit (b.toNat % 16)]

def percentChar (c : Char) : List Char :=
  if isUnreserved c then [c] else (String.utf8EncodeChar c).flatMap percentByte

def percentEncode (cs : List Char) : List Char := cs.flatMap percentChar

end ReleaseAudit.Text
