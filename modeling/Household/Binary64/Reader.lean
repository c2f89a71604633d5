import Household.Binary64.Basic
import Household.Text.Numeral

/-!
# Reading Decimals as Doubles

A decimal is read in steps, each rounded to nearest: the digits that fit a 64-bit word as a whole
number, then once multiplied or divided by a power of ten. Digits of the whole part past the word
only raise the power of ten, digits of the fraction past it are dropped. For numbers of up to
fifteen digits and small exponents the result is the nearest double; for longer ones it can be a
neighbour of it.
-/

namespace Household.Binary64

open Text

/-- Appends digits to a number as long as it stays below 2^64; the digits that are left over. -/
def appendDigits (n : Nat) : List Char → Nat × List Char
  | [] => (n, [])
  | c :: cs =>
    if 10 * n + digitValue c < Nat.pow 2 64 then appendDigits (10 * n + digitValue c) cs
    else (n, c :: cs)

/-- The magnitude of a power of ten up to 10^308. -/
def powerOfTen (k : Nat) : Nat :=
  (nearest? (Nat.pow 10 k) 1).getD 0

/-- Divides a magnitude by 10^308 this many times, stopping at zero. -/
def divideDown? : Nat → Nat → Option Nat
  | 0, m => some m
  | k + 1, m => if m = 0 then some 0 else (div? m (powerOfTen 308)).bind (divideDown? k)

/-- Scales a magnitude by a power of ten; below 10^-308 in several divisions. -/
def scaleByTen? (m : Nat) (e : Int) : Option Nat :=
  if 0 ≤ e then
    if e ≤ 308 then mul? m (powerOfTen e.toNat) else if m = 0 then some 0 else none
  else
    let k := (e.natAbs - 1) / 308
    (divideDown? k m).bind fun m => div? m (powerOfTen (e.natAbs - 308 * k))

/-- The double that a numeral is read as; none if it is too great. -/
def ofNumeral? (n : Numeral) : Option Binary64 := do
  let (whole, dropped) := appendDigits 0 n.whole
  let (m, left) := appendDigits whole n.fraction
  let power := match n.exponent with
    | some e => e.toInt
    | none => 0
  let start ← nearest? m 1
  let magnitude ← scaleByTen? start (power + dropped.length + left.length - n.fraction.length)
  ofMagnitude? n.negative magnitude

end Household.Binary64
