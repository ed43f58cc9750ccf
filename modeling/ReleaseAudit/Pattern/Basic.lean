import ReleaseAudit.Pattern.CharClass

/-!
# Patterns

A pattern denotes, for a text and a place in it, the places where a match that begins there can end.
`Pattern.ends` computes them for a set of places at once, so the work is bounded by the sizes of the
pattern and the text.
-/

namespace ReleaseAudit

/-- Conditions on a place that take no character. -/
inductive Look where
  | textStart | textEnd
  | lineStart (crlf : Bool) | lineEnd (crlf : Bool)
  | wordBoundary (unicode : Bool) | notWordBoundary (unicode : Bool)
  | wordStart (unicode : Bool) | wordEnd (unicode : Bool)
  | wordStartHalf (unicode : Bool) | wordEndHalf (unicode : Bool)
deriving DecidableEq, Repr

inductive Pattern where
  | empty
  | one (cls : CharClass)
  | look (look : Look)
  | seq (a b : Pattern)
  | alt (a b : Pattern)
  | rep (a : Pattern) (least : Nat) (most : Option Nat)
deriving Repr, Inhabited

/-- A place in a text: the number of characters before it, the last of them, and what follows. -/
structure Place where
  index : Nat
  before : Option Char
  after : List Char
deriving Repr, DecidableEq

namespace Place

def start (cs : List Char) : Place := ⟨0, none, cs⟩

def next? (p : Place) : Option Place :=
  match p.after with
  | [] => none
  | c :: cs => some ⟨p.index + 1, some c, cs⟩

/-- Every place of the text `cs`, in order, from the place `⟨index, before, cs⟩` on. -/
def allFrom (index : Nat) (before : Option Char) : List Char → List Place
  | [] => [⟨index, before, []⟩]
  | c :: cs => ⟨index, before, c :: cs⟩ :: allFrom (index + 1) (some c) cs

/-- The places of two ascending lists, each once. -/
def merge : List Place → List Place → List Place
  | [], qs => qs
  | ps, [] => ps
  | p :: ps, q :: qs =>
    if p.index < q.index then p :: merge ps (q :: qs)
    else if q.index < p.index then q :: merge (p :: ps) qs
    else p :: merge ps qs
termination_by ps qs => ps.length + qs.length

/-- The places of the first list that are not in the second. -/
def minus : List Place → List Place → List Place
  | [], _ => []
  | ps, [] => ps
  | p :: ps, q :: qs =>
    if p.index < q.index then p :: minus ps (q :: qs)
    else if q.index < p.index then minus (p :: ps) qs
    else minus ps qs
termination_by ps qs => ps.length + qs.length

end Place

namespace Look

def holds (l : Look) (p : Place) : Bool :=
  let next := p.after.head?
  let wordBefore (unicode : Bool) := p.before.any (CharClass.word unicode).contains
  let wordAfter (unicode : Bool) := next.any (CharClass.word unicode).contains
  match l with
  | textStart => p.before.isNone
  | textEnd => next.isNone
  | lineStart false => p.before.isNone || p.before == some '\n'
  | lineStart true =>
    p.before.isNone || p.before == some '\n' || (p.before == some '\r' && next != some '\n')
  | lineEnd false => next.isNone || next == some '\n'
  | lineEnd true =>
    next.isNone || next == some '\r' || (next == some '\n' && p.before != some '\r')
  | wordBoundary u => wordBefore u != wordAfter u
  | notWordBoundary u => wordBefore u == wordAfter u
  | wordStart u => !wordBefore u && wordAfter u
  | wordEnd u => wordBefore u && !wordAfter u
  | wordStartHalf u => !wordBefore u
  | wordEndHalf u => !wordAfter u

end Look

namespace Pattern

def concat (ps : List Pattern) : Pattern := ps.foldr (fun p q => if q matches .empty then p else seq p q) empty

/-- The places `step` leads to in exactly `n` rounds. -/
def rounds (step : List Place → List Place) : Nat → List Place → List Place
  | 0, ps => ps
  | n + 1, ps => if ps.isEmpty then [] else rounds step n (step ps)

/-- `found` and the places `step` leads to from the newest of them in at most `n` rounds. -/
def saturate (step : List Place → List Place) :
    (n : Nat) → (found newest : List Place) → List Place
  | 0, found, _ => found
  | n + 1, found, newest =>
    let fresh := Place.minus (step newest) found
    if fresh.isEmpty then found else saturate step n (Place.merge found fresh) fresh

/-- The places where a match that begins at one of `ps` can end. A text of fewer than `bound`
characters has at most `bound` places, so more than `bound` repetitions reach nothing new. -/
def ends (bound : Nat) : Pattern → List Place → List Place
  | empty, ps => ps
  | one cls, ps => (ps.filter fun p => p.after.head?.any cls.contains).filterMap Place.next?
  | look l, ps => ps.filter l.holds
  | seq a b, ps => ends bound b (ends bound a ps)
  | alt a b, ps => Place.merge (ends bound a ps) (ends bound b ps)
  | rep a least most, ps =>
    let after := rounds (ends bound a) (min least bound) ps
    let more := (most.map fun m => min (m - least) bound).getD bound
    saturate (ends bound a) more after after

/-- Whether the pattern matches somewhere in the text. -/
def occursIn (p : Pattern) (text : List Char) : Bool :=
  !(p.ends (text.length + 1) (Place.allFrom 0 none text)).isEmpty

end Pattern

end ReleaseAudit
