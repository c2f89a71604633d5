import Household.Binary64.Basic
import Household.Text.Numeral

/-!
# Shortest Decimals of Doubles

The text of a double is the decimal with the fewest digits that rounds to it, and among those the
one nearest to its value. For each number of digits only two decimals can round to the value: the
next one below and the next one above it.

## Main results

* `roundsTo_of_shortest?`: the decimal that is found rounds to the double.
-/

namespace Household.Binary64

open Text

/-- A decimal: `coefficient` times ten to the power of `exponent`. -/
structure Decimal where
  coefficient : Nat
  exponent : Int
deriving DecidableEq, Repr

/-- The decimal as a fraction. -/
def Decimal.ratio (d : Decimal) : Nat × Nat :=
  if 0 ≤ d.exponent then (d.coefficient * Nat.pow 10 d.exponent.toNat, 1)
  else (d.coefficient, Nat.pow 10 d.exponent.natAbs)

/-- The decimal rounds to the double of this magnitude. -/
def Decimal.roundsTo (d : Decimal) (magnitude : Nat) : Bool :=
  nearest? d.ratio.1 d.ratio.2 = some magnitude

/-- The power of ten at or below a positive fraction that is not less than 10^-400. -/
def leadingExponent (num den : Nat) : Int :=
  (digits (num * Nat.pow 10 400 / den)).length - 401

/-- The decimals next below and next above a fraction in the grid of a power of ten, the nearer one
first; of two equally near the one with an even coefficient. -/
def neighbours (num den : Nat) (exponent : Int) : List Decimal :=
  let (n, d) :=
    if 0 ≤ exponent then (num, den * Nat.pow 10 exponent.toNat)
    else (num * Nat.pow 10 exponent.natAbs, den)
  let low : Decimal := ⟨n / d, exponent⟩
  let high : Decimal := ⟨n / d + 1, exponent⟩
  let r := n % d
  if 2 * r < d ∨ 2 * r = d ∧ n / d % 2 = 0 then [low, high] else [high, low]

/-- The nearer neighbour in a grid among those that round to the magnitude. -/
def inGrid? (magnitude : Nat) (exponent : Int) : Option Decimal :=
  let (num, den) := ratio magnitude
  (neighbours num den exponent).find? (·.roundsTo magnitude)

/-- The decimal with the fewest digits, at most seventeen, that rounds to a positive double. -/
def shortest? (magnitude : Nat) : Option Decimal :=
  let (num, den) := ratio magnitude
  let leading := leadingExponent num den
  (List.range 17).findSome? fun finer : Nat => inGrid? magnitude (leading - finer)

/-! ### Layout -/

/-- How decimals are laid out: powers of ten from `leastPlain` to `greatestPlain` of the first
digit are written with the point in place, others with an exponent after `e`. -/
structure Layout where
  leastPlain : Int
  greatestPlain : Int

/-- Numbers on the wire are plain from 0.00001 up to sixteen digits before the point. -/
def wireLayout : Layout := ⟨-5, 15⟩

/-- Digits with a point after the `k`-th of them, at least one digit on each side. -/
def withPoint (ds : List Char) (k : Int) : Numeral :=
  if k ≤ 0 then ⟨false, ['0'], List.replicate k.natAbs '0' ++ ds, none⟩
  else if ds.length ≤ k.toNat then
    ⟨false, ds ++ List.replicate (k.toNat - ds.length) '0', ['0'], none⟩
  else ⟨false, ds.take k.toNat, ds.drop k.toNat, none⟩

/-- Digits with the point after the first one and an exponent with its sign. -/
def withExponent (ds : List Char) (e : Int) : Numeral :=
  ⟨false, ds.take 1, ds.drop 1, some ⟨some (e < 0), digits e.natAbs⟩⟩

/-- A decimal laid out. Trailing zeros of the coefficient do not count as digits. -/
def Decimal.numeral (layout : Layout) (d : Decimal) : Numeral :=
  let all := digits d.coefficient
  let ds := (all.reverse.dropWhile (· = '0')).reverse
  let first := d.exponent + all.length - 1
  if layout.leastPlain ≤ first ∧ first ≤ layout.greatestPlain then withPoint ds (first + 1)
  else withExponent ds first

/-- The numeral of a double; zero has one digit on each side of the point. -/
def numeral (x : Binary64) : Numeral :=
  let plain :=
    match shortest? x.magnitude with
    | some d => d.numeral wireLayout
    | none => ⟨false, ['0'], ['0'], none⟩
  { (if x.magnitude = 0 then ⟨false, ['0'], ['0'], none⟩ else plain) with negative := x.negative }

/-! ### What is found rounds back -/

/-- What is found in a grid rounds to the double. -/
theorem roundsTo_of_inGrid? {m : Nat} {e : Int} {d : Decimal} (h : inGrid? m e = some d) :
    d.roundsTo m = true := by
  unfold inGrid? at h
  exact List.find?_some (p := fun d : Decimal => d.roundsTo m) h

/-- The decimal that is found rounds to the double. -/
theorem roundsTo_of_shortest? {m : Nat} {d : Decimal} (h : shortest? m = some d) :
    d.roundsTo m = true := by
  obtain ⟨finer, _, hf⟩ := List.exists_of_findSome?_eq_some h
  exact roundsTo_of_inGrid? hf

end Household.Binary64
