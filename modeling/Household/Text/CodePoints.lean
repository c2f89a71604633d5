/-!
# Ranges of Code Points

Properties of characters are kept as tables of code point ranges, both ends included.

## Main results

* `inRanges_append`: a table in two parts holds what one of its parts holds.
-/

namespace Household.Text

/-- The first code point beyond ASCII. -/
def firstBeyondAscii : Nat := 128

/-- A character of ASCII. -/
def isAscii (c : Char) : Bool := c.toNat < firstBeyondAscii

/-- Whether one of the ranges holds the code point of the character. -/
def inRanges (ranges : List (Nat × Nat)) (c : Char) : Bool :=
  ranges.any fun r => r.1 ≤ c.toNat && c.toNat ≤ r.2

/-- A table in two parts holds what one of its parts holds. -/
theorem inRanges_append (rs ss : List (Nat × Nat)) (c : Char) :
    inRanges (rs ++ ss) c = (inRanges rs c || inRanges ss c) := by
  simp [inRanges]

end Household.Text
