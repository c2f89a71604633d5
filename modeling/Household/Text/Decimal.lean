/-!
# Decimal Numerals

Unsigned and signed whole numbers as lists of characters, ASCII digits only. `digits` writes a
natural number without leading zeros and `value` reads digits back.

## Main results

* `value_digits`: reading what was written gives the number back.
* `length_padded`: a padded numeral has at least the width asked for.
-/

namespace Household.Text

/-- The number that a digit stands for; a character that is no ASCII digit counts as if it were
shifted from `'0'`, so callers select digits first. -/
def digitValue (c : Char) : Nat :=
  c.toNat - '0'.toNat

/-- The ASCII digit for a number below ten. -/
def digitChar (n : Nat) : Char :=
  Char.ofNat ('0'.toNat + n)

/-- The number written by a list of digits, most significant first; the empty list is zero. -/
def value (cs : List Char) : Nat :=
  cs.foldl (fun n c => 10 * n + digitValue c) 0

/-- The decimal digits of a number, without leading zeros; zero is the one digit `0`. -/
def digits (n : Nat) : List Char :=
  if n < 10 then [digitChar n] else digits (n / 10) ++ [digitChar (n % 10)]
termination_by n
decreasing_by omega

/-- The digits of `n`, filled with leading zeros up to `width` characters. -/
def padded (width n : Nat) : List Char :=
  let ds := digits n
  List.replicate (width - ds.length) '0' ++ ds

/-- A signed whole number: a minus sign in front of the digits where it is negative. -/
def signed (n : Int) : List Char :=
  if n < 0 then '-' :: digits n.natAbs else digits n.natAbs

/-- The digits that a text starts with, and what follows them. -/
def spanDigits (cs : List Char) : List Char × List Char :=
  (cs.takeWhile Char.isDigit, cs.dropWhile Char.isDigit)

/-- Reads a whole text as a number: an optional sign and at least one ASCII digit, and nothing
else. -/
def readSigned? (cs : List Char) : Option Int :=
  match cs with
  | '-' :: ds => if ds ≠ [] ∧ ds.all Char.isDigit then some (-(value ds : Int)) else none
  | '+' :: ds => if ds ≠ [] ∧ ds.all Char.isDigit then some (value ds : Int) else none
  | ds => if ds ≠ [] ∧ ds.all Char.isDigit then some (value ds : Int) else none

/-- A whole number as a 64-bit word, where it fits. -/
def word? (n : Int) : Option Int64 :=
  if Int64.minValue.toInt ≤ n ∧ n ≤ Int64.maxValue.toInt then some (Int64.ofInt n) else none

/-- Reads a whole text as a signed 64-bit word. -/
def readWord? (cs : List Char) : Option Int64 :=
  (readSigned? cs).bind word?

/-! ### Writing and reading -/

/-- A digit stands for the number that it was chosen for. -/
theorem digitValue_digitChar {n : Nat} (h : n < 10) : digitValue (digitChar n) = n := by
  match n, h with
  | 0, _ | 1, _ | 2, _ | 3, _ | 4, _ | 5, _ | 6, _ | 7, _ | 8, _ | 9, _ => rfl

/-- One more digit multiplies by ten and adds its value. -/
theorem value_append_singleton (cs : List Char) (c : Char) :
    value (cs ++ [c]) = 10 * value cs + digitValue c := by
  simp [value, List.foldl_append]

/-- Reading what was written gives the number back. -/
theorem value_digits (n : Nat) : value (digits n) = n := by
  fun_induction digits n with
  | case1 n h => simp [value, digitValue_digitChar h]
  | case2 n h ih => rw [value_append_singleton, ih, digitValue_digitChar (by omega)]; omega

/-- A padded numeral has at least the width asked for. -/
theorem length_padded (width n : Nat) : width ≤ (padded width n).length := by
  simp only [padded, List.length_append, List.length_replicate]
  omega

/-- A word that fits is the number it was made from. -/
theorem toInt_of_word? {n : Int} {w : Int64} (h : word? n = some w) : w.toInt = n := by
  unfold word? at h
  split at h
  · next hn =>
    obtain rfl := Option.some.inj h
    exact Int64.toInt_ofInt_of_le hn.1 (Int.lt_add_one_of_le hn.2)
  · exact absurd h (by simp)

end Household.Text
