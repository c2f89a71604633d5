import Household.Instant.Basic
import Household.Text.Decimal

/-!
# The Written Form of an Instant

An instant is written in universal time as `2024-01-15T08:00:00Z`. Years outside 0 to 9999 carry a
sign; a fraction of a second has three, six or nine digits, the fewest that hold it, and is left out
where it is zero; a leap second is second 60.
-/

namespace Household.Instant

open Text Calendar

/-- A year: four digits from 0 to 9999, else a sign and at least four digits. -/
def yearText (y : Int) : List Char :=
  if 0 ≤ y ∧ y ≤ 9999 then padded 4 y.natAbs
  else (if y < 0 then '-' else '+') :: padded 4 y.natAbs

/-- The fraction of a second with its point, in thirds of nine digits. -/
def fractionText (nano : Nat) : List Char :=
  if nano = 0 then []
  else if nano % 1000000 = 0 then '.' :: padded 3 (nano / 1000000)
  else if nano % 1000 = 0 then '.' :: padded 6 (nano / 1000)
  else '.' :: padded 9 nano

/-- Hours and minutes of a second of the day. -/
def clockText (secondOfDay : Nat) : List Char :=
  padded 2 (secondOfDay / 3600) ++ ':' :: padded 2 (secondOfDay / 60 % 60)

/-- The written form of an instant. -/
def text (t : Instant) : List Char :=
  let d := Date.ofDayNumber (t.second / 86400)
  let s := t.secondOfDay.toNat
  let leap := t.nano / 1000000000
  yearText d.year ++ '-' :: padded 2 d.month ++ '-' :: padded 2 d.day
    ++ 'T' :: clockText s ++ ':' :: padded 2 (s % 60 + leap)
    ++ fractionText (t.nano % 1000000000) ++ ['Z']

end Household.Instant
