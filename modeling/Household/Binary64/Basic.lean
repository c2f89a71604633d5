/-!
# Finite Double-Precision Numbers

A finite binary64 number is a sign and the lower 63 bits of its encoding. Read as a natural number
these bits grow with the absolute value, so rounding is a function on naturals. Every operation
takes the exact rational result and rounds it once, to the nearest number, of two equally near to
the one with an even last bit.

## Main results

* `nearest_zero`: zero rounds to zero.
-/

namespace Household

/-- A finite binary64 number. -/
structure Binary64 where
  negative : Bool
  magnitude : Nat
  finite : magnitude < 2047 * Nat.pow 2 52
deriving DecidableEq

namespace Binary64

/-- Positive zero. -/
def zero : Binary64 := ⟨false, 0, by decide⟩

/-- The significand of a magnitude as a whole number, at most 53 bits. -/
def significand (magnitude : Nat) : Nat :=
  if magnitude < Nat.pow 2 52 then magnitude else Nat.pow 2 52 + magnitude % Nat.pow 2 52

/-- The number of powers of two above 2^-1074 that the significand is multiplied by. -/
def scale (magnitude : Nat) : Nat :=
  magnitude / Nat.pow 2 52 - 1

/-- The denominator of the least positive number, 2^-1074. -/
@[irreducible] def unitsPerOne : Nat := Nat.pow 2 1074

/-- The absolute value as a fraction: numerator and denominator. -/
def ratio (magnitude : Nat) : Nat × Nat :=
  (significand magnitude * Nat.pow 2 (scale magnitude), unitsPerOne)

/-- The quotient rounded to the nearest whole number, of two to the even one. -/
def roundQuotient (num den : Nat) : Nat :=
  let q := num / den
  let r := num % den
  if 2 * r < den then q else if den < 2 * r then q + 1 else q + q % 2

/-- The magnitude nearest to a fraction, where it is finite. The fraction is counted in units of
2^-1074 and, above 53 bits, of the power of two that leaves 53 bits; a carry into the next power of
two is right since magnitudes are consecutive there. -/
def nearest? (num den : Nat) : Option Nat :=
  let shift := (num * unitsPerOne / den).log2 - 52
  let magnitude :=
    shift * Nat.pow 2 52 + roundQuotient (num * unitsPerOne) (den * Nat.pow 2 shift)
  if magnitude < 2047 * Nat.pow 2 52 then some magnitude else none

/-- A product, where it is finite. -/
def mul? (a b : Nat) : Option Nat :=
  let (n, d) := ratio a
  let (m, e) := ratio b
  nearest? (n * m) (d * e)

/-- A quotient, where it is finite. -/
def div? (a b : Nat) : Option Nat :=
  let (n, d) := ratio a
  let (m, e) := ratio b
  nearest? (n * e) (d * m)

/-- The 64 bits of the encoding. -/
def bits (x : Binary64) : Nat :=
  (if x.negative then Nat.pow 2 63 else 0) + x.magnitude

/-- A number from its sign and magnitude, where the magnitude is finite. -/
def ofMagnitude? (negative : Bool) (magnitude : Nat) : Option Binary64 :=
  if h : magnitude < 2047 * Nat.pow 2 52 then some ⟨negative, magnitude, h⟩ else none

/-! ### Small facts -/

/-- Zero is rounded to zero. -/
theorem nearest_zero (den : Nat) (h : 0 < den) : nearest? 0 den = some 0 := by
  simp [nearest?, roundQuotient, h]

end Binary64

end Household
