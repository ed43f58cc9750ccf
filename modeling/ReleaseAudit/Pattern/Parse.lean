import ReleaseAudit.Pattern.Basic
import ReleaseAudit.Text.Cut
import ReleaseAudit.Text.Search

/-!
# Reading patterns

The notation has alternatives, groups with flags and names, counted repetitions, anchors, escapes and
bracketed classes with set operations. It has no references to groups and no looking around. Every
reader returns the characters behind what it took together with a proof that there are not more of
them.
-/

namespace ReleaseAudit

inductive PatternError where
  | unclosedGroup | unopenedGroup | badGroupName (name : String) | lookAround
  | badFlags | nothingToRepeat | badRepetition
  | badEscape | backreference | badCodePoint
  | unclosedClass | badClassRange | badClassItem
  | unknownProperty (name : String) | needsUnicode
deriving DecidableEq, Repr

namespace PatternError

def reason : PatternError → String
  | unclosedGroup => "unclosed group"
  | unopenedGroup => "unopened group"
  | badGroupName name => "invalid group name '" ++ name ++ "'"
  | lookAround => "look-around is not supported"
  | badFlags => "invalid flags"
  | nothingToRepeat => "repetition operator missing expression"
  | badRepetition => "invalid repetition"
  | badEscape => "invalid escape sequence"
  | backreference => "backreferences are not supported"
  | badCodePoint => "invalid code point"
  | unclosedClass => "unclosed character class"
  | badClassRange => "invalid character class range"
  | badClassItem => "invalid item in character class"
  | unknownProperty name => "unknown property '" ++ name ++ "'"
  | needsUnicode => "only possible with Unicode characters"

def message (e : PatternError) : String := "regex parse error: " ++ e.reason

end PatternError

namespace Pattern

/-- The flags in force. -/
structure Mode where
  ignoreCase : Bool := false
  multiLine : Bool := false
  dotAll : Bool := false
  crlf : Bool := false
  unicode : Bool := true
  spaced : Bool := false
deriving Repr

open Text (Cut)

abbrev Outcome := Except PatternError

/-! ## Blanks in spaced patterns -/

/-- Drops blanks and comments. -/
def dropBlanks (cs : List Char) : List Char :=
  match cs with
  | [] => []
  | c :: cs =>
    if Text.isBlank c then dropBlanks cs
    else if c == '#' then dropBlanks ((cs.dropWhile (· != '\n')).drop 1)
    else c :: cs
termination_by cs.length
decreasing_by
  · simp
  · have := Text.length_dropWhile_le (· != '\n') cs
    simp only [List.length_drop, List.length_cons]
    omega

theorem length_dropBlanks_le (cs : List Char) : (dropBlanks cs).length ≤ cs.length := by
  fun_induction dropBlanks cs with
  | case1 => simp
  | case2 c cs _ ih => simp only [List.length_cons]; omega
  | case3 c cs _ _ ih =>
    have := Text.length_dropWhile_le (· != '\n') cs
    simp only [List.length_drop, List.length_cons] at *
    omega
  | case4 => simp

/-- In a spaced pattern blanks and comments do not count. -/
def skip (mode : Mode) (cs : List Char) : List Char := if mode.spaced then dropBlanks cs else cs

theorem length_skip_le (mode : Mode) (cs : List Char) : (skip mode cs).length ≤ cs.length := by
  unfold skip
  split
  · exact length_dropBlanks_le cs
  · exact Nat.le_refl _

/-! ## Numbers and code points -/

/-- A number has less than 32 bits. -/
def wordLimit : Nat := 0x100000000

/-- A decimal number with blanks around it. -/
def decimal (cs : List Char) : Outcome (Cut cs.length Nat) :=
  let start := cs.dropWhile Text.isBlank
  let digits := start.takeWhile Char.isDigit
  let value := digits.foldl (fun n c => 10 * n + (c.toNat - '0'.toNat)) 0
  if digits.isEmpty || wordLimit ≤ value then .error .badRepetition
  else .ok ⟨value, (start.dropWhile Char.isDigit).dropWhile Text.isBlank, by
    have h₁ : start.length ≤ cs.length := Text.length_dropWhile_le Text.isBlank cs
    have h₂ := Text.length_dropWhile_le Char.isDigit start
    have h₃ := Text.length_dropWhile_le Text.isBlank (start.dropWhile Char.isDigit)
    omega⟩

def hexValue? (c : Char) : Option Nat :=
  if c.isDigit then some (c.toNat - '0'.toNat)
  else if 'a' ≤ c && c ≤ 'f' then some (c.toNat - 'a'.toNat + 10)
  else if 'A' ≤ c && c ≤ 'F' then some (c.toNat - 'A'.toNat + 10)
  else none

def codePoint (n : Nat) : Outcome Char :=
  if h : n.isValidChar then .ok (Char.ofNatAux n h) else .error .badCodePoint

/-- Exactly `count` hexadecimal digits. -/
def hexDigits (mode : Mode) : (count value : Nat) → (cs : List Char) → Outcome (Cut cs.length Nat)
  | 0, value, cs => .ok (.here value cs)
  | count + 1, value, cs => do
    let start := skip mode cs
    have hs := length_skip_le mode cs
    match hc : start with
    | [] => .error .badEscape
    | c :: rest =>
      match hexValue? c with
      | none => .error .badCodePoint
      | some d =>
        let cut ← hexDigits mode count (16 * value + d) rest
        return cut.widen (by simp only [start] at hc; rw [hc] at hs; simp at hs; omega)

/-- Hexadecimal digits up to a closing brace. -/
def bracedHex (mode : Mode) (value? : Option Nat) (cs : List Char) : Outcome (Cut cs.length Nat) :=
  match hc : skip mode cs with
  | [] => .error .badEscape
  | c :: rest =>
    have hs : (c :: rest).length ≤ cs.length := hc ▸ length_skip_le mode cs
    if c == '\x7d' then
      match value? with
      | none => .error .badCodePoint
      | some value => .ok ⟨value, rest, by simp at hs; omega⟩
    else
      match hexValue? c with
      | none => .error .badCodePoint
      | some d =>
        if wordLimit ≤ 16 * value?.getD 0 + d then .error .badCodePoint
        else (bracedHex mode (some (16 * value?.getD 0 + d)) rest).map (·.widen (by simp at hs; omega))
termination_by cs.length
decreasing_by simp at hs; omega

/-- The code point of an escape with the letter `kind`. -/
def hexEscape (mode : Mode) (kind : Char) (cs : List Char) : Outcome (Cut cs.length Char) :=
  match hc : skip mode cs with
  | [] => .error .badEscape
  | c :: rest => do
    have hs : (c :: rest).length ≤ cs.length := hc ▸ length_skip_le mode cs
    if c == '\x7b' then
      let cut ← bracedHex mode none rest
      let c ← codePoint cut.value
      return (cut.map fun _ => c).widen (by simp at hs; omega)
    else
      let count := if kind == 'x' then 2 else if kind == 'u' then 4 else 8
      let cut ← hexDigits mode count 0 (c :: rest)
      let c ← codePoint cut.value
      return (cut.map fun _ => c).widen hs

/-! ## Escapes -/

/-- What an escape stands for. -/
inductive Atom where
  | char (c : Char)
  | cls (cls : CharClass)
  | look (look : Look)

def closeCase (mode : Mode) (cls : CharClass) : CharClass :=
  if !mode.ignoreCase then cls
  else if mode.unicode then .folded cls
  else .inter (.folded cls) .ascii

/-- The complement is taken after the letter cases. Without Unicode a class holds ASCII only. -/
def closeAndNegate (mode : Mode) (negated : Bool) (cls : CharClass) : Outcome CharClass :=
  if !negated then .ok (closeCase mode cls)
  else if mode.unicode then .ok (.complement (closeCase mode cls))
  else .error .needsUnicode

/-- The class that is written with one letter; a capital negates. -/
def letterClass (mode : Mode) (letter : Char) : Outcome CharClass :=
  let cls :=
    match letter.toLower with
    | 'd' => CharClass.digit mode.unicode
    | 's' => CharClass.blank mode.unicode
    | _ => CharClass.word mode.unicode
  if !letter.isUpper then .ok cls
  else if mode.unicode then .ok (.complement cls)
  else .error .needsUnicode

/-- The class named between the braces of `\p`, and whether the name negates it. -/
def propertyClass? (name : List Char) : Option (CharClass × Bool) :=
  let rec cut? : List Char → Option (List Char × List Char)
    | [] => none
    | '!' :: '=' :: rest => some ([], rest)
    | c :: rest => (cut? rest).map fun (a, b) => (c :: a, b)
  match cut? name with
  | some (property, value) => (CharClass.valued? property value).map (·, true)
  | none =>
    match (Text.cutAt? (· == ':') name) <|> (Text.cutAt? (· == '=') name) with
    | some (property, value) => (CharClass.valued? property value).map (·, false)
    | none => (CharClass.named? name).map (·, false)

def lookUpProperty (mode : Mode) (negated : Bool) (name : List Char) : Outcome CharClass :=
  if !mode.unicode then .error .needsUnicode
  else
    match propertyClass? name with
    | none => .error (.unknownProperty (String.ofList name))
    | some (cls, flipped) => closeAndNegate mode (negated != flipped) cls

/-- The characters up to a closing brace. -/
def braced (mode : Mode) (cs : List Char) : Outcome (Cut cs.length (List Char)) :=
  match hc : skip mode cs with
  | [] => .error .badEscape
  | c :: rest =>
    have hs : (c :: rest).length ≤ cs.length := hc ▸ length_skip_le mode cs
    if c == '\x7d' then .ok ⟨[], rest, by simp at hs; omega⟩
    else (braced mode rest).map fun cut => (cut.map (c :: ·)).widen (by simp at hs; omega)
termination_by cs.length
decreasing_by simp at hs; omega

def propertyEscape (mode : Mode) (negated : Bool) (cs : List Char) :
    Outcome (Cut cs.length CharClass) :=
  match hc : skip mode cs with
  | [] => .error .badEscape
  | c :: rest => do
    have hs : (c :: rest).length ≤ cs.length := hc ▸ length_skip_le mode cs
    if c == '\x7b' then
      let cut ← braced mode rest
      let cls ← lookUpProperty mode negated cut.value
      return (cut.map fun _ => cls).widen (by simp at hs; omega)
    else if c == '\\' then .error .badEscape
    else
      let cls ← lookUpProperty mode negated [c]
      return ⟨cls, rest, by simp at hs; omega⟩

def isWordEdgeChar (c : Char) : Bool := c.isAlpha || c == '-'

/-- The name of a word edge in the braces behind `\b`; none when the braces hold a repetition. -/
def wordEdge (mode : Mode) (cs : List Char) : Outcome (Option (Cut cs.length Look)) :=
  let inner := cs.filter (fun c => !(mode.spaced && Text.isBlank c))
  if !inner.head?.any isWordEdgeChar then
    if inner.isEmpty then .error .badEscape else .ok none
  else
    match hc : cs.dropWhile (fun c => isWordEdgeChar c || (mode.spaced && Text.isBlank c)) with
    | [] => .error .badEscape
    | c :: rest =>
      if c != '\x7d' then .error .badEscape
      else
        let edge? : Option Look :=
          match String.ofList (inner.takeWhile isWordEdgeChar) with
          | "start" => some (.wordStart mode.unicode)
          | "end" => some (.wordEnd mode.unicode)
          | "start-half" => some (.wordStartHalf mode.unicode)
          | "end-half" => some (.wordEndHalf mode.unicode)
          | _ => none
        match edge? with
        | none => .error .badEscape
        | some edge => .ok (some ⟨edge, rest, by
            have := Text.length_dropWhile_le
              (fun c => isWordEdgeChar c || (mode.spaced && Text.isBlank c)) cs
            rw [hc, List.length_cons] at this
            omega⟩)

def controlEscape? : Char → Option Char
  | 'a' => some '\x07'
  | 'f' => some '\x0c'
  | 't' => some '\t'
  | 'n' => some '\n'
  | 'r' => some '\r'
  | 'v' => some '\x0b'
  | _ => none

/-- Whether a backslash before `c` just stands for `c`. -/
def isQuotable (c : Char) : Bool := c.toNat < 128 && !c.isAlphanum && c != '<' && c != '>'

def anchor? (unicode : Bool) : Char → Option Look
  | 'A' => some .textStart
  | 'z' => some .textEnd
  | 'B' => some (.notWordBoundary unicode)
  | '<' => some (.wordStart unicode)
  | '>' => some (.wordEnd unicode)
  | _ => none

/-- Reads what follows `\b`. -/
def boundary (mode : Mode) (cs : List Char) : Outcome (Cut cs.length Look) :=
  let plain : Cut cs.length Look := .here (.wordBoundary mode.unicode) cs
  match cs, plain with
  | '\x7b' :: inner, plain => do
    match ← wordEdge mode inner with
    | some cut => return cut.past
    | none => return plain
  | _, plain => .ok plain

/-- Reads what follows a backslash. -/
def escape (mode : Mode) (cs : List Char) : Outcome (Cut cs.length Atom) :=
  match cs with
  | [] => .error .badEscape
  | c :: rest => do
    if c.isDigit then .error .backreference
    else if c == 'x' || c == 'u' || c == 'U' then
      return ((← hexEscape mode c rest).map Atom.char).past
    else if c == 'p' || c == 'P' then
      return ((← propertyEscape mode (c == 'P') rest).map Atom.cls).past
    else if c.toLower == 'd' || c.toLower == 's' || c.toLower == 'w' then
      return (Cut.here (.cls (← letterClass mode c)) rest).past
    else if c == 'b' then return ((← boundary mode rest).map Atom.look).past
    else if isQuotable c then return (Cut.here (.char c) rest).past
    else
      match (controlEscape? c).map Atom.char <|> (anchor? mode.unicode c).map Atom.look with
      | some atom => return (Cut.here atom rest).past
      | none => .error .badEscape

/-! ## Bracketed classes -/

inductive SetOp where
  | inter | diff | symmDiff

def SetOp.apply : SetOp → CharClass → CharClass → CharClass
  | inter => .inter
  | diff => .diff
  | symmDiff => .symmDiff

/-- The class so far: the operands already combined, if any, with the next operation, and the union
of the items of the current operand. -/
structure ClassState where
  left : Option (SetOp × CharClass) := none
  items : CharClass := .empty

namespace ClassState

def add (s : ClassState) (cls : CharClass) : ClassState := { s with items := .union s.items cls }

/-- Operations have one precedence and associate to the left. -/
def combined (mode : Mode) (s : ClassState) : CharClass :=
  match s.left with
  | none => s.items
  | some (op, left) => op.apply (closeCase mode left) (closeCase mode s.items)

def continueWith (mode : Mode) (s : ClassState) (op : SetOp) : ClassState :=
  { left := some (op, s.combined mode) }

end ClassState

/-- A class `[:name:]`, read behind its bracket; none when there is no such class there. -/
def posixClass? (mode : Mode) (cs : List Char) : Option (Outcome CharClass × List Char) :=
  match cs with
  | ':' :: rest =>
    let (negated, rest) :=
      match rest with
      | '^' :: rest => (true, rest)
      | _ => (false, rest)
    match Text.cutAt? (· == ':') rest with
    | some (name, ']' :: rest) =>
      (CharClass.posix? (String.ofList name)).map fun ranges =>
        (closeAndNegate mode negated (.ranges ranges), rest)
    | _ => none
  | _ => none

def itemClass (mode : Mode) : Atom → Outcome CharClass
  | .char c => if mode.unicode || c.toNat < 128 then .ok (.single c) else .error .needsUnicode
  | .cls cls => .ok cls
  | .look _ => .error .badClassItem

def rangeClass (mode : Mode) (lo hi : Atom) : Outcome CharClass :=
  match lo, hi with
  | .char lo, .char hi =>
    if hi < lo then .error .badClassRange
    else if mode.unicode || hi.toNat < 128 then .ok (.between lo hi)
    else .error .needsUnicode
  | _, _ => .error .badClassRange

/-- One character or escape, read with its first character `c`. -/
def classAtom (mode : Mode) (c : Char) (rest : List Char) : Outcome (Cut rest.length Atom) :=
  if c == '\\' then escape mode rest else .ok (.here (.char c) rest)

/-- The characters behind a hyphen that makes a range, where `cs` begins with that hyphen; a hyphen
in front of a bracket or of another hyphen makes none. -/
def rangeEnd? (mode : Mode) (cs : List Char) : Option (Cut cs.length Char) :=
  match cs with
  | '-' :: behind =>
    have hb := length_skip_le mode behind
    match hd : skip mode behind with
    | [] => none
    | d :: more =>
      if d == ']' || d == '-' then none
      else some ⟨d, more, by rw [hd] at hb; simp only [List.length_cons] at *; omega⟩
  | _ => none

/-- One item of a class or a range of characters. -/
def classItem (mode : Mode) (c : Char) (rest : List Char) :
    Outcome (Cut rest.length CharClass) := do
  let lo ← classAtom mode c rest
  let behind := skip mode lo.rest
  have hb : behind.length ≤ rest.length := Nat.le_trans (length_skip_le mode lo.rest) lo.le
  if behind.isEmpty then .error .unclosedClass
  else
    match rangeEnd? mode behind with
    | none => return ⟨← itemClass mode lo.value, behind, hb⟩
    | some ⟨d, more, hm⟩ =>
      let hi ← classAtom mode d more
      return ⟨← rangeClass mode lo.value hi.value, hi.rest, by have := hi.le; omega⟩

/-- The hyphens in front of a class, each a character of it. -/
def leadingHyphens (mode : Mode) (cs : List Char) : Cut cs.length Bool :=
  match hc : skip mode cs with
  | '-' :: rest =>
    have hs : ('-' :: rest).length ≤ cs.length := hc ▸ length_skip_le mode cs
    ((leadingHyphens mode rest).map fun _ => true).widen (by simp at hs; omega)
  | rest => ⟨false, rest, hc ▸ length_skip_le mode cs⟩
termination_by cs.length
decreasing_by simp at hs; omega

def negation (cs : List Char) : Cut cs.length Bool :=
  match cs with
  | '^' :: rest => (Cut.here true rest).past
  | cs => .here false cs

/-- The start of a class behind its bracket: whether it is negated, and its first items. A bracket in
first place is a character of the class. -/
def classOpen (mode : Mode) (cs : List Char) : Outcome (Cut cs.length (Bool × CharClass)) :=
  let start := skip mode cs
  have hs : start.length ≤ cs.length := length_skip_le mode cs
  let negated := negation start
  let hyphens := leadingHyphens mode negated.rest
  have hn : negated.rest.length ≤ cs.length := Nat.le_trans negated.le hs
  have hh : hyphens.rest.length ≤ cs.length := Nat.le_trans hyphens.le hn
  match hyphens.rest, hh with
  | [], _ => .error .unclosedClass
  | c :: rest, hh =>
    if hyphens.value then .ok ⟨(negated.value, .single '-'), c :: rest, hh⟩
    else if c == ']' then
      .ok ⟨(negated.value, .single ']'), rest, Nat.le_of_succ_le hh⟩
    else .ok ⟨(negated.value, .empty), c :: rest, hh⟩

/-- What stands at a place in a class. -/
inductive ClassMark where
  | close | nested | op (op : SetOp) | posix (cls : Outcome CharClass) | item

/-- The mark that begins with `c`, and the characters behind it. -/
def classMark (mode : Mode) (c : Char) (rest : List Char) : Cut rest.length ClassMark :=
  if c == ']' then .here .close rest
  else if c == '[' then
    match posixClass? mode rest with
    | some (cls, behind) =>
      if h : behind.length ≤ rest.length then ⟨.posix cls, behind, h⟩ else .here .nested rest
    | none => .here .nested rest
  else
    match rest with
    | d :: behind =>
      if c == '&' && d == '&' then ⟨.op .inter, behind, Nat.le_succ _⟩
      else if c == '-' && d == '-' then ⟨.op .diff, behind, Nat.le_succ _⟩
      else if c == '~' && d == '~' then ⟨.op .symmDiff, behind, Nat.le_succ _⟩
      else .here .item (d :: behind)
    | [] => .here .item []

/-- The rest of a class up to and including its closing bracket. -/
def classRest (mode : Mode) (negated : Bool) (s : ClassState) (cs : List Char) :
    Outcome (Cut cs.length CharClass) :=
  match hc : skip mode cs with
  | [] => .error .unclosedClass
  | c :: rest => do
    have hr : rest.length < cs.length := by
      have hs := length_skip_le mode cs
      rw [hc, List.length_cons] at hs
      omega
    let ⟨mark, behind, hb⟩ := classMark mode c rest
    match mark with
    | .close => return ⟨← closeAndNegate mode negated (s.combined mode), behind, by omega⟩
    | .posix cls =>
      return (← classRest mode negated (s.add (← cls)) behind).widen (by omega)
    | .nested =>
      let start ← classOpen mode behind
      have h₁ := start.le
      let inner ← classRest mode start.value.1 { items := start.value.2 } start.rest
      have h₂ := inner.le
      return (← classRest mode negated (s.add inner.value) inner.rest).widen (by omega)
    | .op op => return (← classRest mode negated (s.continueWith mode op) behind).widen (by omega)
    | .item =>
      let item ← classItem mode c behind
      have h₁ := item.le
      return (← classRest mode negated (s.add item.value) item.rest).widen (by omega)
termination_by cs.length

def bracketed (mode : Mode) (cs : List Char) : Outcome (Cut cs.length CharClass) := do
  let start ← classOpen mode cs
  let cls ← classRest mode start.value.1 { items := start.value.2 } start.rest
  return cls.widen start.le

/-! ## Groups and flags -/

/-- Sets the flag `flag`; greed does not decide whether a text matches. -/
def Mode.set? (mode : Mode) (flag : Char) (on : Bool) : Option Mode :=
  match flag with
  | 'i' => some { mode with ignoreCase := on }
  | 'm' => some { mode with multiLine := on }
  | 's' => some { mode with dotAll := on }
  | 'U' => some mode
  | 'u' => some { mode with unicode := on }
  | 'R' => some { mode with crlf := on }
  | 'x' => some { mode with spaced := on }
  | _ => none

/-- Flags in front of `:` or `)`. Each occurs once, and a hyphen turns those behind it off. -/
def readFlags (mode : Mode) (on : Bool) (seen : List Char) : List Char → Outcome Mode
  | [] => if seen.head? == some '-' then .error .badFlags else .ok mode
  | flag :: rest =>
    if seen.contains flag then .error .badFlags
    else if flag == '-' then readFlags mode false (flag :: seen) rest
    else
      match mode.set? flag on with
      | none => .error .badFlags
      | some mode => readFlags mode on (flag :: seen) rest

def isGroupNameStart (c : Char) : Bool := c == '_' || Text.isAlphabetic c

def isGroupNamePart (c : Char) : Bool :=
  c == '_' || c == '.' || c == '[' || c == ']' || Text.isAlphanumeric c

def isGroupName : List Char → Bool
  | [] => false
  | c :: cs => isGroupNameStart c && cs.all isGroupNamePart

inductive GroupHead where
  /-- Flags that hold up to the end of the enclosing group. -/
  | flags (mode : Mode)
  | group (mode : Mode) (names : List String)

def namedGroup (mode : Mode) (names : List String) (cs : List Char) :
    Outcome (Cut cs.length GroupHead) :=
  match hc : cs.dropWhile (· != '>') with
  | [] => .error (.badGroupName (String.ofList cs))
  | _ :: rest =>
    let text := cs.takeWhile (· != '>')
    let name := String.ofList text
    if !isGroupName text || names.contains name then .error (.badGroupName name)
    else .ok ⟨.group mode (name :: names), rest, by
      have := Text.length_dropWhile_le (· != '>') cs
      rw [hc, List.length_cons] at this
      omega⟩

def flagGroup (mode : Mode) (names : List String) (cs : List Char) :
    Outcome (Cut cs.length GroupHead) :=
  let isEnd (c : Char) := c == ':' || c == ')'
  match hc : cs.dropWhile (!isEnd ·) with
  | [] => .error .badFlags
  | c :: rest => do
    let flags := cs.takeWhile (!isEnd ·)
    if c == ')' && flags.isEmpty then .error .nothingToRepeat
    else
      let inner ← readFlags mode true [] flags
      return ⟨if c == ')' then .flags inner else .group inner names, rest, by
        have := Text.length_dropWhile_le (!isEnd ·) cs
        rw [hc, List.length_cons] at this
        omega⟩

/-- The start of a group behind its parenthesis. -/
def groupHead (mode : Mode) (names : List String) (cs : List Char) :
    Outcome (Cut cs.length GroupHead) :=
  have hs := length_skip_le mode cs
  match hc : skip mode cs with
  | '?' :: 'P' :: '<' :: rest =>
    (namedGroup mode names rest).map (·.widen (by rw [hc] at hs; simp at hs; omega))
  | '?' :: '=' :: _ | '?' :: '!' :: _ | '?' :: '<' :: '=' :: _ | '?' :: '<' :: '!' :: _ =>
    .error .lookAround
  | '?' :: '<' :: rest =>
    (namedGroup mode names rest).map (·.widen (by rw [hc] at hs; simp at hs; omega))
  | '?' :: rest =>
    (flagGroup mode names rest).map (·.widen (by rw [hc] at hs; simp at hs; omega))
  | rest => .ok ⟨.group mode names, rest, by rw [← hc]; exact hs⟩

/-! ## Repetitions -/

def dropLazy (cs : List Char) : List Char :=
  match cs with
  | '?' :: rest => rest
  | _ => cs

theorem length_dropLazy_le (cs : List Char) : (dropLazy cs).length ≤ cs.length := by
  unfold dropLazy
  split <;> simp

/-- The bounds between braces, read behind the opening one. -/
def bounds (mode : Mode) (cs : List Char) : Outcome (Cut cs.length (Nat × Option Nat)) := do
  let least ← decimal (skip mode cs)
  have h₁ := Nat.le_trans least.le (length_skip_le mode cs)
  match hc : skip mode least.rest with
  | '\x7d' :: rest =>
    return ⟨(least.value, some least.value), rest, by
      have := length_skip_le mode least.rest; rw [hc, List.length_cons] at this; omega⟩
  | ',' :: rest =>
    have h₂ : rest.length < least.rest.length := by
      have := length_skip_le mode least.rest; rw [hc, List.length_cons] at this; omega
    have h₃ := length_skip_le mode rest
    match hd : skip mode rest with
    | '\x7d' :: rest' =>
      return ⟨(least.value, none), rest', by rw [hd, List.length_cons] at h₃; omega⟩
    | start =>
      let most ← decimal start
      have h₄ := most.le
      match he : skip mode most.rest with
      | '\x7d' :: rest' =>
        if most.value < least.value then .error .badRepetition
        else return ⟨(least.value, some most.value), rest', by
          have := length_skip_le mode most.rest
          rw [he, List.length_cons] at this
          rw [hd] at h₃
          omega⟩
      | _ => .error .badRepetition
  | _ => .error .badRepetition

/-- The items of a branch, last first; flags leave a place that cannot be repeated. -/
abbrev Items := List (Option Pattern)

def repeatLast (items : Items) (least : Nat) (most : Option Nat) : Outcome Items :=
  match items with
  | some p :: items => .ok (some (.rep p least most) :: items)
  | _ => .error .nothingToRepeat

/-! ## Branches -/

def anyChar (mode : Mode) : Outcome CharClass :=
  if !mode.unicode then .error .needsUnicode
  else if mode.dotAll then .ok .any
  else if mode.crlf then .ok (.complement (.ranges [(10, 10), (13, 13)]))
  else .ok (.complement (.single '\n'))

def literal (mode : Mode) (c : Char) : Outcome Pattern :=
  if mode.unicode || c.toNat < 128 then .ok (.one (closeCase mode (.single c)))
  else .error .needsUnicode

def ofAtom (mode : Mode) : Atom → Outcome Pattern
  | .char c => literal mode c
  | .cls cls => .ok (.one cls)
  | .look l => .ok (.look l)

/-- A single item that begins with `c`. -/
def item (mode : Mode) (c : Char) (rest : List Char) : Outcome (Cut rest.length Pattern) := do
  match c with
  | '[' => return (← bracketed mode rest).map Pattern.one
  | '\\' =>
    let atom ← escape mode rest
    let p ← ofAtom mode atom.value
    return atom.map fun _ => p
  | '.' => return .here (.one (← anyChar mode)) rest
  | '^' => return .here (.look (if mode.multiLine then .lineStart mode.crlf else .textStart)) rest
  | '$' => return .here (.look (if mode.multiLine then .lineEnd mode.crlf else .textEnd)) rest
  | c => return .here (← literal mode c) rest

/-- The flags in force and the names of the groups so far. -/
structure Progress where
  mode : Mode
  names : List String

def branch (items : Items) : Pattern := concat (items.filterMap id).reverse

def alternatives : List Pattern → Pattern
  | [] => .empty
  | [p] => p
  | p :: ps => .alt (alternatives ps) p

/-- The branches up to a closing parenthesis or the end. The branches before the current one are in
`done`, last first. -/
def branches (st : Progress) (done : List Pattern) (items : Items) (cs : List Char) :
    Outcome (Cut cs.length (Pattern × Progress)) := do
  have hs := length_skip_le st.mode cs
  match hc : skip st.mode cs with
  | [] => return ⟨(alternatives (branch items :: done), st), [], Nat.zero_le _⟩
  | c :: rest =>
    have hr : rest.length < cs.length := by rw [hc, List.length_cons] at hs; omega
    match c with
    | ')' => return ⟨(alternatives (branch items :: done), st), ')' :: rest, hr⟩
    | '|' => return (← branches st (branch items :: done) [] rest).widen (by omega)
    | '(' =>
      let head ← groupHead st.mode st.names rest
      have h₁ := head.le
      match head.value with
      | .flags mode =>
        return (← branches { st with mode } done (none :: items) head.rest).widen (by omega)
      | .group mode names =>
        let inner ← branches ⟨mode, names⟩ [] [] head.rest
        have h₂ := inner.le
        match hi : inner.rest with
        | ')' :: rest' =>
          have h₃ : rest'.length < inner.rest.length := by rw [hi]; exact Nat.lt_succ_self _
          let st := ⟨st.mode, inner.value.2.names⟩
          return (← branches st done (some inner.value.1 :: items) rest').widen (by omega)
        | _ => .error .unclosedGroup
    | '*' =>
      have := length_dropLazy_le rest
      return (← branches st done (← repeatLast items 0 none) (dropLazy rest)).widen (by omega)
    | '+' =>
      have := length_dropLazy_le rest
      return (← branches st done (← repeatLast items 1 none) (dropLazy rest)).widen (by omega)
    | '?' =>
      have := length_dropLazy_le rest
      return (← branches st done (← repeatLast items 0 (some 1)) (dropLazy rest)).widen (by omega)
    | '\x7b' =>
      if items.head?.join.isNone then .error .nothingToRepeat
      else
        let range ← bounds st.mode rest
        have h₁ := range.le
        have h₂ := length_skip_le st.mode range.rest
        have h₃ := length_dropLazy_le (skip st.mode range.rest)
        let items ← repeatLast items range.value.1 range.value.2
        return (← branches st done items (dropLazy (skip st.mode range.rest))).widen (by omega)
    | c =>
      let one ← item st.mode c rest
      have h₁ := one.le
      return (← branches st done (some one.value :: items) one.rest).widen (by omega)
termination_by cs.length

end Pattern

def Pattern.parse (source : String) : Except PatternError Pattern := do
  let whole ← Pattern.branches ⟨{}, []⟩ [] [] source.toList
  match whole.rest with
  | [] => return whole.value.1
  | _ :: _ => .error .unopenedGroup

end ReleaseAudit
