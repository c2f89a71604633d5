/-!
# The Proleptic Gregorian Calendar

Dates of the Gregorian calendar, carried on without a break before its introduction, and their
numbering by days. Day zero is 1 January 1970.

## Main results

* `daysBefore_splitMonths`: finding the month of a day of the year loses nothing.
* `daysBeforeYear_splitYears`: finding the year of a day loses nothing.
-/

namespace Household.Calendar

/-- A year, month and day; not every triple is a date of the calendar (`Date.IsReal`). -/
structure Date where
  year : Int
  month : Nat
  day : Nat
deriving DecidableEq, Repr

/-- A year divisible by four is a leap year, unless it is divisible by a hundred and not by four
hundred. -/
def isLeapYear (y : Int) : Bool :=
  y % 4 = 0 && (y % 100 ≠ 0 || y % 400 = 0)

/-- The lengths of the months of a year. -/
def monthLengths (leap : Bool) : List Nat :=
  [31, if leap then 29 else 28, 31, 30, 31, 30, 31, 31, 30, 31, 30, 31]

/-- The length of one month, zero for a month that the year does not have. -/
def monthLength (y : Int) (month : Nat) : Nat :=
  if month = 0 then 0 else (monthLengths (isLeapYear y)).getD (month - 1) 0

/-- The date exists in the calendar. -/
def Date.IsReal (d : Date) : Prop :=
  1 ≤ d.month ∧ d.month ≤ 12 ∧ 1 ≤ d.day ∧ d.day ≤ monthLength d.year d.month

instance (d : Date) : Decidable d.IsReal :=
  inferInstanceAs (Decidable (_ ∧ _ ∧ _ ∧ _))

/-- The days from 1 January of the year 1 to 1 January of the year `y`. -/
def daysBeforeYear (y : Int) : Int :=
  365 * (y - 1) + (y - 1) / 4 - (y - 1) / 100 + (y - 1) / 400

/-- The days of a year before its `k`-th month, counted from zero. -/
def daysBefore (lengths : List Nat) (k : Nat) : Nat :=
  (lengths.take k).foldr (· + ·) 0

/-- The day number of 1 January of the year 1, negated. -/
def epochDay : Int := 719162

/-- The number of days from 1 January 1970 to a date. -/
def Date.dayNumber (d : Date) : Int :=
  daysBeforeYear d.year - epochDay + daysBefore (monthLengths (isLeapYear d.year)) (d.month - 1)
    + (d.day - 1)

/-- Splits a day of the year, counted from zero, into the number of whole months before it and the
day of its month, counted from zero. -/
def splitMonths : List Nat → Nat → Nat × Nat
  | [], d => (0, d)
  | m :: ms, d =>
    if d < m then (0, d)
    else let (k, r) := splitMonths ms (d - m); (k + 1, r)

/-- Splits a number of days since 1 January of the year 1 into the year they fall in and the day of
that year, counted from zero: four centuries have 146097 days, a century 36524 and four years 1461,
where the last century of four and the last year of four are one day longer. -/
def splitYears (n : Int) : Int × Int :=
  let quad := n / 146097
  let r := n % 146097
  let century := min 3 (r / 36524)
  let r := r - century * 36524
  let four := r / 1461
  let r := r - four * 1461
  let year := min 3 (r / 365)
  (400 * quad + 100 * century + 4 * four + year + 1, r - year * 365)

/-- The date of a day number. -/
def Date.ofDayNumber (n : Int) : Date :=
  let (y, d) := splitYears (n + epochDay)
  let (m, r) := splitMonths (monthLengths (isLeapYear y)) d.toNat
  { year := y, month := m + 1, day := r + 1 }

/-! ### Splitting loses nothing -/

/-- Splitting off whole months and joining them again gives the day back. -/
theorem daysBefore_splitMonths (lengths : List Nat) (d : Nat) :
    daysBefore lengths (splitMonths lengths d).1 + (splitMonths lengths d).2 = d := by
  induction lengths generalizing d with
  | nil => simp [splitMonths, daysBefore]
  | cons m ms ih =>
    unfold splitMonths
    split
    · simp [daysBefore]
    · have := ih (d - m)
      simp only [daysBefore] at this
      simp only [daysBefore, List.take_succ_cons, List.foldr_cons]
      omega

/-- The days before the year that is `400 * q + 100 * c + 4 * f + y` years after the year 1, where
`c` centuries, `f` times four years and `y` years are each less than the next larger unit. -/
theorem daysBeforeYear_of_parts {q c f y : Int} (hc : 0 ≤ c ∧ c ≤ 3) (hf : 0 ≤ f ∧ f ≤ 24)
    (hy : 0 ≤ y ∧ y ≤ 3) :
    daysBeforeYear (400 * q + 100 * c + 4 * f + y + 1)
      = 146097 * q + 36524 * c + 1461 * f + 365 * y := by
  have h4 : (400 * q + 100 * c + 4 * f + y) / 4 = 100 * q + 25 * c + f := by omega
  have h100 : (400 * q + 100 * c + 4 * f + y) / 100 = 4 * q + c := by omega
  have h400 : (400 * q + 100 * c + 4 * f + y) / 400 = q := by omega
  simp only [daysBeforeYear, Int.add_sub_cancel, h4, h100, h400]
  omega

/-- Splitting off whole years and joining them again gives the day back. -/
theorem daysBeforeYear_splitYears (n : Int) :
    daysBeforeYear (splitYears n).1 + (splitYears n).2 = n := by
  simp only [splitYears]
  rw [daysBeforeYear_of_parts (by omega) (by omega) (by omega)]
  omega

/-- The day of the year is one of its days. -/
theorem splitYears_snd_range (n : Int) :
    0 ≤ (splitYears n).2 ∧ (splitYears n).2 < 366 := by
  simp only [splitYears]
  omega

/-- The date of a day number has that day number. -/
theorem dayNumber_ofDayNumber (n : Int) : (Date.ofDayNumber n).dayNumber = n := by
  have hy := daysBeforeYear_splitYears (n + epochDay)
  have hr := splitYears_snd_range (n + epochDay)
  have hm := daysBefore_splitMonths (monthLengths (isLeapYear (splitYears (n + epochDay)).1))
    (splitYears (n + epochDay)).2.toNat
  simp only [Date.dayNumber, Date.ofDayNumber, Nat.add_sub_cancel]
  omega

end Household.Calendar
