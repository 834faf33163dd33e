/-!
# Sets of characters as ranges

The character classes of this library are written as lists of inclusive ranges of code points.
-/

namespace Lanewise.Text

/-- Whether a character lies in one of the ranges. -/
def inRanges (ranges : List (Nat × Nat)) (c : Char) : Bool :=
  ranges.any fun range => range.1 ≤ c.toNat && c.toNat ≤ range.2

end Lanewise.Text
