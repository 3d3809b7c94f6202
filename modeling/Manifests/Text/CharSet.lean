/-! Sets of characters given by a table. All tables are of Unicode 17.0. -/

namespace Manifests.Text

/-- A set of characters as the code points at which membership changes, in increasing order. -/
structure CharSet where
  flips : List Nat

/-- A character is in the set when an odd number of changes lie at or below it. -/
def CharSet.has (s : CharSet) (c : Char) : Bool :=
  s.flips.countP (· ≤ c.toNat) % 2 == 1

end Manifests.Text
