/-!
# Sets of characters

A character class of a standard, stored as the ranges of code points that belong to it.
-/

namespace Farcall.Text

structure CharSet where
  ranges : List (Nat × Nat)

def CharSet.contains (s : CharSet) (c : Char) : Bool :=
  s.ranges.any fun r => r.1 ≤ c.toNat && c.toNat ≤ r.2

end Farcall.Text
