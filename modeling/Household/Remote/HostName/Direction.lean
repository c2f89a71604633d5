import Household.Text.Mark

/-!
# Directions in Host Names

Letters are written from left to right or from right to left; digits and signs follow the letters
around them. A name in which something is written from right to left has to keep its parts in order
on paper: each of them starts with a letter of its direction, has no letters of the other one, and
ends in a letter or digit. The tables are those of Unicode 17, for the characters that can stand in
names.

## Main results

* `areInOrder_of_forall`: in a name without characters from right to left nothing is out of order.
-/

namespace Household.Remote.HostName

open Text

/-- How a character is written. -/
inductive Direction
  | leftToRight
  | rightToLeft
  /-- Digits. -/
  | digit
  /-- Digits of Arabic and its relatives. -/
  | arabicDigit
  /-- Signs that follow what is around them. -/
  | neutral
  /-- Marks, which go with the character before them. -/
  | mark
deriving DecidableEq, Repr

/-- Marks without room of their own that are written like letters from left to right. -/
def leftMarkRanges : List (Nat × Nat) :=
  [(0xCBF, 0xCBF), (0xCC6, 0xCC6), (0x11A07, 0x11A08), (0x11C3F, 0x11C3F)]

/-- Digits of Arabic and its relatives. -/
def arabicDigitRanges : List (Nat × Nat) :=
  [(0x660, 0x669), (0x66B, 0x66C), (0x10D30, 0x10D39), (0x10E60, 0x10E7E)]

/-- Digits other than those of ASCII. -/
def digitRanges : List (Nat × Nat) :=
  [(0x6F0, 0x6F9), (0x102E1, 0x102FB)]

/-- Signs that follow what is around them, and marks and digits between them. -/
def neutralRanges : List (Nat × Nat) :=
  [(0xA1, 0xD7), (0xF7, 0xF7), (0x2B9, 0x2BA), (0x2C2, 0x2CF), (0x2D2, 0x2ED), (0x2EF, 0x2FF),
    (0x375, 0x375), (0x3F6, 0x3F6), (0x58A, 0x58F), (0x606, 0x607), (0x609, 0x60A), (0x60C, 0x60C),
    (0x60E, 0x60F), (0x66A, 0x66A), (0x6DE, 0x6DE), (0x6E9, 0x6E9), (0x7F6, 0x7F9), (0x9F2, 0x9F3),
    (0x9FB, 0x9FB), (0xAF1, 0xAF1), (0xBF3, 0xBFA), (0xC78, 0xC7E), (0xE3F, 0xE3F), (0xF3A, 0xF3D),
    (0x1390, 0x1399), (0x1400, 0x1400), (0x169B, 0x169C), (0x17DB, 0x17DB), (0x17F0, 0x180A),
    (0x1940, 0x1945), (0x19DE, 0x19FF), (0x200C, 0x214D), (0x218A, 0x2335), (0x237B, 0x2394),
    (0x2396, 0x26AB), (0x26AD, 0x27FF), (0x2900, 0x2BFF), (0x2CE5, 0x2CEA), (0x2CF9, 0x2CFF),
    (0x2E00, 0x3004), (0x3008, 0x3020), (0x3030, 0x3030), (0x3037, 0x3037), (0x303D, 0x303F),
    (0x30A0, 0x30A0), (0x30FB, 0x30FB), (0x31C0, 0x31E5), (0x4DC0, 0x4DFF), (0xA490, 0xA4C6),
    (0xA60D, 0xA60F), (0xA673, 0xA67F), (0xA700, 0xA721), (0xA788, 0xA788), (0xA828, 0xA82B),
    (0xA838, 0xA839), (0xA874, 0xA877), (0xAB6A, 0xAB6B), (0xFBC3, 0xFE46), (0x10101, 0x10101),
    (0x10140, 0x1018C), (0x10190, 0x101A0), (0x1091F, 0x1091F), (0x10B39, 0x10B3F),
    (0x10D6E, 0x10D6E), (0x10ED0, 0x10ED8), (0x11052, 0x11065), (0x11660, 0x1166C),
    (0x11FD5, 0x11FF1), (0x16FE2, 0x16FE2), (0x1CC00, 0x1CEF0), (0x1D1E9, 0x1D245),
    (0x1D300, 0x1D356), (0x1E2FF, 0x1E2FF), (0x1EEF0, 0x1F12F), (0x1F16D, 0x1F16F),
    (0x1F1AD, 0x1F1AD), (0x1F260, 0x1FBFA)]

/-- Letters from right to left, and what has been told apart before between them. -/
def rightToLeftRanges : List (Nat × Nat) :=
  [(0x5BE, 0x8C9), (0xFBB2, 0xFE73), (0x10800, 0x10FF6), (0x1E800, 0x1ED3D)]

/-- How a character is written. -/
def direction (c : Char) : Direction :=
  if isAscii c then
    if c.isAlpha then .leftToRight else if c.isDigit then .digit else .neutral
  else if isNonspacing c && !inRanges leftMarkRanges c then .mark
  else if inRanges arabicDigitRanges c then .arabicDigit
  else if inRanges digitRanges c then .digit
  else if inRanges neutralRanges c then .neutral
  else if inRanges rightToLeftRanges c then .rightToLeft
  else .leftToRight

/-- How the last character that is no mark is written. -/
def finalDirection? (ds : List Direction) : Option Direction :=
  ds.reverse.find? (· ≠ .mark)

/-- A part of a name that keeps its order, by how its characters are written. -/
def keepsOrder : List Direction → Bool
  | [] => true
  | .leftToRight :: ds =>
    !ds.contains .rightToLeft && !ds.contains .arabicDigit
      && (match finalDirection? (.leftToRight :: ds) with
        | some .leftToRight => true
        | some .digit => true
        | _ => false)
  | .rightToLeft :: ds =>
    !ds.contains .leftToRight && !(ds.contains .digit && ds.contains .arabicDigit)
      && (match finalDirection? (.rightToLeft :: ds) with
        | some .rightToLeft => true
        | some .digit => true
        | some .arabicDigit => true
        | _ => false)
  | _ => false

/-- Something is written from right to left. -/
def goesLeft (ds : List Direction) : Bool :=
  ds.contains .rightToLeft || ds.contains .arabicDigit

/-- The parts of a name are in order. -/
def areInOrder (labels : List (List Char)) : Bool :=
  let written := labels.map (·.map direction)
  !written.any goesLeft || written.all keepsOrder

/-- In a name without characters from right to left nothing is out of order. -/
theorem areInOrder_of_forall {labels : List (List Char)}
    (h : ∀ label ∈ labels, goesLeft (label.map direction) = false) : areInOrder labels = true := by
  have hnone : (labels.map (·.map direction)).any goesLeft = false := by
    rw [List.any_map, List.any_eq_false]
    intro label m
    simp [h label m]
  simp [areInOrder, hnone]

end Household.Remote.HostName
