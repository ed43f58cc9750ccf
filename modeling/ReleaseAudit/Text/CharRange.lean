/-!
# Ascending character ranges

A character class is a list of inclusive code point ranges in ascending order. Membership looks no
further than the first range that starts above the character.
-/

namespace ReleaseAudit.Text

abbrev CharRanges := List (Nat × Nat)

namespace CharRanges

def holds : CharRanges → Nat → Bool
  | [], _ => false
  | (lo, hi) :: rest, n => lo ≤ n && (n ≤ hi || holds rest n)

def contains (ranges : CharRanges) (c : Char) : Bool := ranges.holds c.toNat

end CharRanges

end ReleaseAudit.Text
