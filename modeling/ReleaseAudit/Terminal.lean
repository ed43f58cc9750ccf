import ReleaseAudit.Text.Search

/-!
# Terminal colours

Painted text stands between a code that sets its style and one that resets it. A reset inside the text
is followed by the style again, so that it does not end the style early.
-/

namespace ReleaseAudit

inductive Colour where
  | red | green | yellow | cyan
deriving DecidableEq, Repr

structure Style where
  bold : Bool := false
  dimmed : Bool := false
  colour : Option Colour := none
deriving DecidableEq, Repr

namespace Style

def Colour.code : Colour → String
  | .red => "31"
  | .green => "32"
  | .yellow => "33"
  | .cyan => "36"

def codes (s : Style) : List String :=
  (if s.bold then ["1"] else []) ++ (if s.dimmed then ["2"] else []) ++
    (s.colour.map Colour.code).toList

def start (s : Style) : String := "\x1b[" ++ ";".intercalate s.codes ++ "m"

def reset : String := "\x1b[0m"

def paint (s : Style) (colours : Bool) (text : String) : String :=
  if colours then
    let inner := Text.replace reset.toList (reset ++ s.start).toList text.toList
    s.start ++ String.ofList inner ++ reset
  else text

end Style

/-- Whether texts are painted. The variable `CLICOLOR_FORCE` counts before `NO_COLOR`, and this before
`CLICOLOR` and the question whether the text goes to a terminal. -/
def wantsColours (getVar? : String → Option String) (isTerminal : Bool) : Bool :=
  if (getVar? "CLICOLOR_FORCE").any (· != "0") then true
  else if (getVar? "NO_COLOR").isSome then false
  else isTerminal && (getVar? "CLICOLOR").all (· != "0")

end ReleaseAudit
