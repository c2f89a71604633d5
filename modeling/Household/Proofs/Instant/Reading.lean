import Household.Instant.Printer
import Household.Instant.Reader
import Household.Proofs.Text.Numerals
import Mathlib.Tactic.Ring

/-!
# Instants Are Read Back

What is read as an instant is more than what is written as one: white space, other offsets, years of
fewer digits and fractions of any length. Every instant is among them as it is written, whatever its
year, its fraction and also in a leap second, and reading gives just this instant.

## Main results

* `Calendar.Date.isReal_ofDayNumber`: the date of a day is a date of the calendar.
* `year?_yearText`, `fraction?_fractionText`: the parts of which there are several forms.
* `read?_text`: every instant is read back.
-/

namespace Household

open Text

/-! ### Dates -/

namespace Calendar

/-- The month and the day of a day of the year are a month of the year and a day of this month. -/
theorem splitMonths_lt {lengths : List Nat} {d : Nat} (h : d < lengths.sum) :
    (splitMonths lengths d).1 < lengths.length ∧
      (splitMonths lengths d).2 < lengths.getD (splitMonths lengths d).1 0 := by
  induction lengths generalizing d with
  | nil => exact absurd h (Nat.not_lt_zero d)
  | cons m ms ih =>
    rw [splitMonths]
    split
    · next hlt => exact ⟨Nat.zero_lt_succ _, hlt⟩
    · next hle =>
      rw [List.sum_cons] at h
      obtain ⟨hmonth, hday⟩ := ih (d := d - m) (by omega)
      exact ⟨Nat.succ_lt_succ hmonth, hday⟩

/-- The months fill the year. -/
theorem sum_monthLengths (leap : Bool) : (monthLengths leap).sum = if leap then 366 else 365 := by
  cases leap <;> rfl

/-- Of the years of a century the last of every four is a leap year, but the last of all only in the
last century of four. -/
theorem isLeapYear_of_parts {q c f y : Int} (hc : 0 ≤ c ∧ c ≤ 3) (hf : 0 ≤ f ∧ f ≤ 24)
    (hy : 0 ≤ y ∧ y ≤ 3) :
    isLeapYear (400 * q + 100 * c + 4 * f + y + 1) = true ↔ y = 3 ∧ (f = 24 → c = 3) := by
  simp only [isLeapYear, Bool.and_eq_true, Bool.or_eq_true, decide_eq_true_eq]
  omega

/-- A year has a day of number 365 if it is a leap year. -/
theorem isLeapYear_splitYears {n : Int} (h : (splitYears n).2 = 365) :
    isLeapYear (splitYears n).1 = true := by
  simp only [splitYears] at h ⊢
  rw [isLeapYear_of_parts (by omega) (by omega) (by omega)]
  omega

/-- The day of the year is one of the days of its months. -/
theorem splitYears_snd_lt (n : Int) :
    (splitYears n).2.toNat < (monthLengths (isLeapYear (splitYears n).1)).sum := by
  obtain ⟨hnonneg, hlt⟩ := splitYears_snd_range n
  rw [sum_monthLengths]
  by_cases hlast : (splitYears n).2 = 365
  · rw [if_pos (isLeapYear_splitYears hlast)]
    omega
  · split <;> omega

/-- **The date of a day is a date of the calendar.** -/
theorem Date.isReal_ofDayNumber (n : Int) : (Date.ofDayNumber n).IsReal := by
  obtain ⟨hmonth, hday⟩ := splitMonths_lt (splitYears_snd_lt (n + epochDay))
  simp only [Date.IsReal, Date.ofDayNumber, monthLength, Nat.add_sub_cancel, Nat.succ_ne_zero,
    if_false]
  exact ⟨Nat.succ_pos _, hmonth, Nat.succ_pos _, hday⟩

/-- Months and days have at most two digits. -/
theorem Date.IsReal.lt_hundred {d : Date} (h : d.IsReal) : d.month < 100 ∧ d.day < 100 := by
  obtain ⟨-, hmonth, -, hday⟩ := h
  have hlengths : ∀ leap, ∀ m ∈ monthLengths leap, m < 100 := by decide
  have hlength : monthLength d.year d.month < 100 := by
    rw [monthLength]
    split
    · decide
    · rw [List.getD_eq_getElem?_getD]
      cases hget : (monthLengths (isLeapYear d.year))[d.month - 1]? with
      | none => decide
      | some m => exact hlengths _ m (List.mem_of_getElem? hget)
  omega

end Calendar

namespace Instant

open Calendar

/-! ### Numbers -/

/-- A number below a hundred is padded to two digits. -/
theorem exists_padded_two {n : Nat} (h : n < 100) :
    ∃ a b, padded 2 n = [a, b] ∧ a.isDigit = true ∧ b.isDigit = true ∧ value [a, b] = n := by
  have hlength : (padded 2 n).length = 2 := length_padded_of_lt (by decide) h
  have hdigits := allDigits_padded 2 n
  have hvalue := value_padded 2 n
  match hpadded : padded 2 n, hlength with
  | [a, b], _ =>
    rw [hpadded] at hdigits hvalue
    exact ⟨a, b, rfl, hdigits a (by simp), hdigits b (by simp), hvalue⟩

/-- Two digits are read as their number. -/
theorem upToTwo?_padded {n : Nat} (h : n < 100) (rest : List Char) :
    upToTwo? (padded 2 n ++ rest) = some (n, rest) := by
  obtain ⟨a, b, hpadded, ha, hb, hvalue⟩ := exists_padded_two h
  rw [hpadded, List.cons_append, List.singleton_append, upToTwo?,
    trimStart_cons (isBlank_of_isDigit ha)]
  dsimp only
  rw [if_pos ha, if_pos hb, hvalue]

/-- A mark is read where it stands. -/
theorem mark?_cons {c : Char} (h : isBlank c = false) (rest : List Char) :
    mark? c (c :: rest) = some rest := by
  rw [mark?, trimStart_cons h]
  dsimp only
  rw [if_pos rfl]

/-- A year without a sign is read as its four digits. -/
theorem year?_of_allDigits {ds rest : List Char} (hds : AllDigits ds) (hlength : ds.length = 4)
    (hrest : ∀ c ∈ rest.head?, c.isDigit = false) :
    year? (ds ++ rest) = some ((value ds : Int), rest) := by
  have hspan := spanDigits_append hds hrest
  obtain ⟨c, cs, rfl⟩ := List.exists_cons_of_length_pos (show 0 < ds.length by omega)
  have hc : c.isDigit = true := hds c List.mem_cons_self
  rw [List.cons_append] at hspan ⊢
  rw [year?, trimStart_cons (isBlank_of_isDigit hc)]
  split
  next sign unsigned hsign =>
    split at hsign
    · next heq =>
      obtain rfl := (List.cons.inj heq).1
      cases hc
    · next heq =>
      obtain rfl := (List.cons.inj heq).1
      cases hc
    · obtain ⟨rfl, rfl⟩ := Prod.mk.inj hsign
      rw [hspan]
      dsimp only
      rw [List.take_of_length_le (Nat.le_of_eq hlength),
        List.drop_eq_nil_of_le (Nat.le_of_eq hlength), List.nil_append]

/-- A year with a sign is read as all its digits. -/
theorem year?_of_sign {ds rest : List Char} (hds : AllDigits ds) (hne : ds ≠ [])
    (hrest : ∀ c ∈ rest.head?, c.isDigit = false) (negative : Bool) :
    year? ((if negative then '-' else '+') :: ds ++ rest) =
      some (if negative then -(value ds : Int) else value ds, rest) := by
  have hspan := spanDigits_append hds hrest
  obtain ⟨c, cs, rfl⟩ := List.exists_cons_of_ne_nil hne
  rw [List.cons_append] at hspan
  have hblank : isBlank '-' = false ∧ isBlank '+' = false := by decide
  cases negative with
  | true => simp [year?, trimStart_cons hblank.1, hspan]
  | false => simp [year?, trimStart_cons hblank.2, hspan]

/-- **A year is read back**, up to what comes after its digits. -/
theorem year?_yearText (y : Int) {rest : List Char} (hrest : ∀ c ∈ rest.head?, c.isDigit = false) :
    year? (yearText y ++ rest) = some (y, rest) := by
  have hdigits := allDigits_padded 4 y.natAbs
  have hvalue := value_padded 4 y.natAbs
  rw [yearText]
  split
  · next hrange =>
    have hlength : (padded 4 y.natAbs).length = 4 :=
      length_padded_of_lt (by decide) (by omega)
    rw [year?_of_allDigits hdigits hlength hrest, hvalue, Int.natAbs_of_nonneg hrange.1]
  · have hlength := length_padded 4 y.natAbs
    have hsigned := year?_of_sign hdigits (List.ne_nil_of_length_pos (by omega)) hrest (y < 0)
    rw [hvalue] at hsigned
    simp only [decide_eq_true_eq] at hsigned
    rw [hsigned]
    refine congrArg (fun y => some (y, rest)) ?_
    split <;> omega

/-- A date is read back. -/
theorem date?_text {d : Date} (h : d.IsReal) {rest : List Char} :
    date? (yearText d.year ++ '-' :: (padded 2 d.month ++ '-' :: (padded 2 d.day ++ rest))) =
      some (d, rest) := by
  obtain ⟨hmonth, hday⟩ := h.lt_hundred
  have hmark (cs : List Char) : mark? '-' ('-' :: cs) = some cs := mark?_cons (by decide) cs
  rw [date?, year?_yearText d.year (by rintro c hc; obtain rfl := Option.some.inj hc; rfl)]
  simp only [Option.bind_eq_bind, Option.bind_some, hmark, upToTwo?_padded hmonth,
    upToTwo?_padded hday]
  rfl

/-! ### Times of day -/

/-- Zeros at the end count as so many powers of ten. -/
theorem value_append_replicate (ds : List Char) (k : Nat) :
    value (ds ++ List.replicate k '0') = value ds * 10 ^ k := by
  induction k with
  | zero => simp
  | succ k ih =>
    rw [List.replicate_succ', ← List.append_assoc, value_append_singleton, ih, Nat.pow_succ]
    have hzero : digitValue '0' = 0 := rfl
    rw [hzero]
    ring

/-- Three, six or nine digits after the point are read as so many nanoseconds. -/
theorem fraction?_padded {n width : Nat} (hwidth : width ≠ 0) (hle : width ≤ 9) (h : n < 10 ^ width)
    {rest : List Char} (hrest : ∀ c ∈ rest.head?, c.isDigit = false) :
    fraction? ('.' :: padded width n ++ rest) = some (n * 10 ^ (9 - width), rest) := by
  have hlength := length_padded_of_lt hwidth h
  have hne : padded width n ≠ [] := List.ne_nil_of_length_pos (by omega)
  rw [List.cons_append, fraction?, spanDigits_append (allDigits_padded width n) hrest]
  dsimp only
  rw [if_neg hne, fractionNanos, List.take_of_length_le (by omega), value_append_replicate,
    value_padded, hlength]

/-- **A fraction is read back.** -/
theorem fraction?_fractionText {nano : Nat} (h : nano < 1000000000) :
    fraction? (fractionText nano ++ ['Z']) = some (nano, ['Z']) := by
  have hrest : ∀ c ∈ ['Z'].head?, c.isDigit = false := fun c hc => by
    obtain rfl := Option.some.inj hc
    rfl
  rw [fractionText]
  split
  · next hzero =>
    rw [hzero]
    rfl
  split
  · next hmillis =>
    rw [fraction?_padded (by decide) (by decide) (by omega) hrest]
    refine congrArg (fun n => some (n, ['Z'])) ?_
    omega
  split
  · next hmicros =>
    rw [fraction?_padded (by decide) (by decide) (by omega) hrest]
    refine congrArg (fun n => some (n, ['Z'])) ?_
    omega
  · rw [fraction?_padded (by decide) (by decide) (by omega) hrest, Nat.sub_self, Nat.pow_zero,
      Nat.mul_one]

/-- A time of day is read back. -/
theorem time?_text {hour minute second nano : Nat} (hhour : hour < 100) (hminute : minute < 100)
    (hsecond : second < 100) (hnano : nano < 1000000000) :
    time? (padded 2 hour ++ ':' :: (padded 2 minute ++ ':' :: (padded 2 second ++
      (fractionText nano ++ ['Z'])))) = some ((hour, minute, second, nano), ['Z']) := by
  have hmark (cs : List Char) : mark? ':' (':' :: cs) = some cs := mark?_cons (by decide) cs
  rw [time?]
  simp only [Option.bind_eq_bind, Option.bind_some, hmark, upToTwo?_padded hhour,
    upToTwo?_padded hminute, upToTwo?_padded hsecond, fraction?_fractionText hnano]
  rfl

/-! ### Instants -/

/-- A date, a time of day and nanoseconds in universal time are an instant that has them. -/
theorem ofLocal?_eq_some {t : Instant} {d : Date} {hour minute second nano : Nat} (hd : d.IsReal)
    (hhour : hour < 24) (hminute : minute < 60) (hsecond : second ≤ 60) (hnano : nano < 1000000000)
    (hclock : d.dayNumber * 86400 + (hour * 3600 + minute * 60 + (second - second / 60) : Nat) =
      t.second)
    (hleap : nano + second / 60 * 1000000000 = t.nano) :
    ofLocal? d hour minute second nano 0 = some t := by
  have hfirst := t.first_le
  have hlast := t.le_last
  rw [ofLocal?, if_pos ⟨hd, hhour, hminute, hsecond, hnano⟩]
  simp only [hclock, hleap, Int.zero_mul, Int.sub_zero]
  rw [dif_pos ⟨hfirst, hlast, hfirst, hlast, t.nano_lt, t.leap_last⟩]

/-- The text of an instant, part by part. -/
theorem text_eq (t : Instant) :
    t.text = yearText (Date.ofDayNumber (t.second / 86400)).year ++ '-' ::
      (padded 2 (Date.ofDayNumber (t.second / 86400)).month ++ '-' ::
        (padded 2 (Date.ofDayNumber (t.second / 86400)).day ++ 'T' ::
          (padded 2 (t.secondOfDay.toNat / 3600) ++ ':' ::
            (padded 2 (t.secondOfDay.toNat / 60 % 60) ++ ':' ::
              (padded 2 (t.secondOfDay.toNat % 60 + t.nano / 1000000000) ++
                (fractionText (t.nano % 1000000000) ++ ['Z'])))))) := by
  simp only [text, clockText, List.append_assoc, List.cons_append]

/-- **Every instant is read back.** -/
theorem read?_text (t : Instant) : read? t.text = some t := by
  have hreal := Date.isReal_ofDayNumber (t.second / 86400)
  have hday := dayNumber_ofDayNumber (t.second / 86400)
  have hclock : (t.secondOfDay.toNat : Int) = t.second % 86400 := by
    simp only [secondOfDay]
    omega
  have hnano := t.nano_lt
  have hleap := t.leap_last
  have hhour : t.secondOfDay.toNat / 3600 < 100 := by omega
  have hminute : t.secondOfDay.toNat / 60 % 60 < 100 := by omega
  have hsecond : t.secondOfDay.toNat % 60 + t.nano / 1000000000 < 100 := by omega
  have hfraction : t.nano % 1000000000 < 1000000000 := by omega
  rw [text_eq, read?, date?_text hreal]
  simp only [Option.bind_eq_bind, Option.bind_some, separator?,
    time?_text hhour hminute hsecond hfraction]
  refine ofLocal?_eq_some hreal (by omega) (by omega) (by omega) (by omega) ?_ ?_
  · rw [hday]
    omega
  · omega

end Instant

end Household
