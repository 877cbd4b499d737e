/-! Sets of characters given by ranges of code points. A property of the character tables is
stated once, as a sorted list of closed ranges, and membership is the only question asked of it. -/
namespace Handbook.Text

/-- Closed ranges of code points, in ascending order and pairwise disjoint. -/
abbrev CodeRanges := List (Nat × Nat)

/-- A character belongs to the ranges when one of them holds its code point. -/
def CodeRanges.has (ranges : CodeRanges) (c : Char) : Bool :=
  ranges.any fun range => range.1 ≤ c.toNat && c.toNat ≤ range.2

end Handbook.Text
