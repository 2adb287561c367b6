/-!
# Sets of code points

A property of characters is held as the list of its inclusive ranges.
-/

namespace PrivacyMapping.Text

abbrev CodePoints := List (Nat × Nat)

namespace CodePoints

/-- Whether the character lies in one of the ranges. -/
def contains (ranges : CodePoints) (c : Char) : Bool :=
  ranges.any fun range => decide (range.1 ≤ c.toNat) && decide (c.toNat ≤ range.2)

end CodePoints

end PrivacyMapping.Text
