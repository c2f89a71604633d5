import Household.Instant.Basic
import Household.Text.Blank
import Household.Text.Decimal

/-!
# Reading an Instant

The accepted texts are dates and times with an offset from universal time, such as
`2024-01-15T08:00:00+02:00`. White space may stand before each number but the fraction, before the
marks between them, before the offset and at the end; the separator of date and time is one `T`,
`t` or space directly after the day. Each part of the grammar is a function from a text to what it
reads and the text that is left.
-/

namespace Household.Instant

open Text Calendar

/-! ### Parts of the grammar -/

/-- One given character after optional white space. -/
def mark? (c : Char) (cs : List Char) : Option (List Char) :=
  match trimStart cs with
  | d :: rest => if d = c then some rest else none
  | [] => none

/-- A number of one or two digits after optional white space. -/
def upToTwo? (cs : List Char) : Option (Nat × List Char) :=
  match trimStart cs with
  | a :: b :: rest =>
    if a.isDigit then
      if b.isDigit then some (value [a, b], rest) else some (value [a], b :: rest)
    else none
  | [a] => if a.isDigit then some (value [a], []) else none
  | [] => none

/-- A year after optional white space: one to four digits, or a sign and any number of digits. -/
def year? (cs : List Char) : Option (Int × List Char) :=
  let (sign, rest) : Option Bool × List Char :=
    match trimStart cs with
    | '-' :: rest => (some true, rest)
    | '+' :: rest => (some false, rest)
    | rest => (none, rest)
  let (ds, after) := spanDigits rest
  match sign, ds with
  | _, [] => none
  | some true, ds => some (-(value ds : Int), after)
  | some false, ds => some (value ds, after)
  | none, ds => some (value (ds.take 4), ds.drop 4 ++ after)

/-- A year, month and day joined by hyphens. -/
def date? (cs : List Char) : Option (Date × List Char) := do
  let (year, cs) ← year? cs
  let cs ← mark? '-' cs
  let (month, cs) ← upToTwo? cs
  let cs ← mark? '-' cs
  let (day, cs) ← upToTwo? cs
  return ({ year, month, day }, cs)

/-- The single character between date and time. -/
def separator? : List Char → Option (List Char)
  | 'T' :: rest => some rest
  | 't' :: rest => some rest
  | ' ' :: rest => some rest
  | _ => none

/-- The nanoseconds of the digits after a point: nine of them count, further ones are dropped. -/
def fractionNanos (ds : List Char) : Nat :=
  value (ds.take 9 ++ List.replicate (9 - ds.length) '0')

/-- An optional fraction of a second, directly after the second. -/
def fraction? (cs : List Char) : Option (Nat × List Char) :=
  match cs with
  | '.' :: rest =>
    let (ds, after) := spanDigits rest
    if ds = [] then none else some (fractionNanos ds, after)
  | _ => some (0, cs)

/-- The time of day as hour, minute, second and nanoseconds. -/
def time? (cs : List Char) : Option ((Nat × Nat × Nat × Nat) × List Char) := do
  let (hour, cs) ← upToTwo? cs
  let cs ← mark? ':' cs
  let (minute, cs) ← upToTwo? cs
  let cs ← mark? ':' cs
  let (second, cs) ← upToTwo? cs
  let (nano, cs) ← fraction? cs
  return ((hour, minute, second, nano), cs)

/-- Exactly two digits. -/
def twoDigits? : List Char → Option (Nat × List Char)
  | a :: b :: rest => if a.isDigit && b.isDigit then some (value [a, b], rest) else none
  | _ => none

/-- The signs of an offset: plus, hyphen and the minus sign; `true` for west of Greenwich. -/
def offsetSign? : List Char → Option (Bool × List Char)
  | '+' :: rest => some (false, rest)
  | '-' :: rest => some (true, rest)
  | '−' :: rest => some (true, rest)
  | _ => none

/-- A numeric offset in minutes: a sign, two digits for the hours, any run of colons and white
space, two digits for the minutes; less than a day. -/
def numericOffset? (cs : List Char) : Option (Int × List Char) := do
  let (west, cs) ← offsetSign? cs
  let (hours, cs) ← twoDigits? cs
  let (minutes, cs) ← twoDigits? (cs.dropWhile fun c => c = ':' || isBlank c)
  if minutes < 60 ∧ hours < 24 then
    let offset : Int := hours * 60 + minutes
    return (if west then -offset else offset, cs)
  else none

/-- An offset in minutes after optional white space: the letters `UTC` in any case, one letter `Z`
or `z`, or a number. -/
def offset? (cs : List Char) : Option (Int × List Char) :=
  match trimStart cs with
  | 'Z' :: rest => some (0, rest)
  | 'z' :: rest => some (0, rest)
  | a :: b :: c :: rest =>
    if a.toUpper = 'U' ∧ b.toUpper = 'T' ∧ c.toUpper = 'C' then some (0, rest)
    else numericOffset? (a :: b :: c :: rest)
  | rest => numericOffset? rest

/-! ### The whole text -/

/-- The instant with this local date and time at this offset in minutes. The local date and the
instant must both be in range; second 60 is the leap second after second 59. -/
def ofLocal? (date : Date) (hour minute second nano : Nat) (offset : Int) : Option Instant :=
  if date.IsReal ∧ hour < 24 ∧ minute < 60 ∧ second ≤ 60 ∧ nano < 1000000000 then
    let leap := second / 60
    let clock : Int := date.dayNumber * 86400 + (hour * 3600 + minute * 60 + (second - leap) : Nat)
    if h : firstSecond ≤ clock ∧ clock ≤ lastSecond
        ∧ firstSecond ≤ clock - offset * 60 ∧ clock - offset * 60 ≤ lastSecond
        ∧ nano + leap * 1000000000 < 2000000000
        ∧ (1000000000 ≤ nano + leap * 1000000000 → (clock - offset * 60) % 60 = 59) then
      some
        { second := clock - offset * 60
          nano := nano + leap * 1000000000
          first_le := h.2.2.1
          le_last := h.2.2.2.1
          nano_lt := h.2.2.2.2.1
          leap_last := h.2.2.2.2.2 }
    else none
  else none

/-- Reads a whole text as an instant. -/
def read? (cs : List Char) : Option Instant := do
  let (date, cs) ← date? cs
  let cs ← separator? cs
  let ((hour, minute, second, nano), cs) ← time? cs
  let (offset, cs) ← offset? cs
  if allBlank cs then ofLocal? date hour minute second nano offset else none

end Household.Instant
