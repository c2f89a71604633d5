import Household.Text.CodePoints

/-!
# White Space

The characters with the property `White_Space`, as a table of code point ranges, and the trimming
of texts by it. A zero-width space, a byte order mark and the Mongolian vowel separator do not have
the property.

## Main results

* `isBlank_of_isWhitespace`: the white space of ASCII is among them.
-/

namespace Household.Text

/-- The code point ranges of the property `White_Space`, in ascending order. -/
def blankRanges : List (Nat × Nat) :=
  [(0x09, 0x0D), (0x20, 0x20), (0x85, 0x85), (0xA0, 0xA0), (0x1680, 0x1680), (0x2000, 0x200A),
    (0x2028, 0x2029), (0x202F, 0x202F), (0x205F, 0x205F), (0x3000, 0x3000)]

/-- White space, by the property of that name. -/
def isBlank (c : Char) : Bool :=
  inRanges blankRanges c

/-- A text without its leading white space. -/
def trimStart (cs : List Char) : List Char :=
  cs.dropWhile isBlank

/-- A text without its trailing white space. -/
def trimEnd (cs : List Char) : List Char :=
  (cs.reverse.dropWhile isBlank).reverse

/-- A text of which nothing is left once white space is trimmed. -/
def allBlank (cs : List Char) : Bool :=
  cs.all isBlank

/-- The table holds every character that counts as white space in ASCII. -/
theorem isBlank_of_isWhitespace {c : Char} (h : c.isWhitespace = true) : isBlank c = true := by
  simp only [Char.isWhitespace, Bool.or_eq_true, decide_eq_true_eq] at h
  rcases h with ((rfl | rfl) | rfl) | rfl <;> decide

end Household.Text
