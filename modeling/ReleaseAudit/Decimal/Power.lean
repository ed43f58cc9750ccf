/-!
# Powers

Powers of two, by which floats are scaled, and powers of ten, by which decimals are.
-/

namespace ReleaseAudit.Decimal

def twoPow (n : Nat) : Nat := Nat.pow 2 n

def tenPow (n : Nat) : Nat := Nat.pow 10 n

end ReleaseAudit.Decimal
