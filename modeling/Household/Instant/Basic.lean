import Household.Instant.Calendar

/-!
# Instants and Spans

An instant is a point of universal time with nanosecond precision, between the first second of the
year -262143 and the last of the year 262142. A leap second is kept as its own instants: they carry
the second before it and between one and two thousand million nanoseconds, so that they come after
every other instant of that second and before the next one. A span is a signed number of
nanoseconds.

Arithmetic that leaves its range is a `RangeError`; nothing wraps and nothing is clamped.

## Main results

* `Instant.lt_iff_nanos_lt`: away from leap seconds the order is that of `Instant.nanos`.
* `Instant.add_eq_ok_iff`: away from leap seconds a sum is exact, and fails exactly outside the
  range.
-/

namespace Household

open Calendar (Date)

/-- Arithmetic on time that left its range. -/
inductive RangeError
  /-- An instant plus a span. -/
  | sum
  /-- An instant minus a span. -/
  | difference
  /-- A number of milliseconds that is no span. -/
  | milliseconds
  /-- A number of minutes that is no span. -/
  | minutes
deriving DecidableEq, Repr

/-- The text of a range error. -/
def RangeError.message : RangeError → String
  | .sum => "`DateTime + TimeDelta` overflowed"
  | .difference => "`DateTime - TimeDelta` overflowed"
  | .milliseconds => "TimeDelta::milliseconds out of bounds"
  | .minutes => "TimeDelta::minutes out of bounds"

/-! ### Spans -/

/-- A signed length of time. -/
structure Span where
  nanos : Int
deriving DecidableEq, Repr

namespace Span

/-- The greatest number of milliseconds of a span; the least is its negative. -/
def maxMillis : Int := 9223372036854775807

/-- No time at all. -/
def zero : Span := ⟨0⟩

/-- The span of a number of milliseconds. The least 64-bit word is out of range, since it has no
opposite. -/
def ofMillis (ms : Int64) : Except RangeError Span :=
  if ms.toInt < -maxMillis then .error .milliseconds else .ok ⟨ms.toInt * 1000000⟩

/-- The span of a number of minutes. -/
def ofMinutes (minutes : Int64) : Except RangeError Span :=
  if minutes.toInt * 60000 < -maxMillis ∨ maxMillis < minutes.toInt * 60000 then .error .minutes
  else .ok ⟨minutes.toInt * 60000000000⟩

/-- The whole milliseconds of a span, truncated toward zero. -/
def millis (d : Span) : Int :=
  d.nanos.tdiv 1000000

/-- The whole seconds of a span, truncated toward zero. -/
def seconds (d : Span) : Int :=
  d.nanos.tdiv 1000000000

/-- The span in the other direction. -/
def opposite (d : Span) : Span := ⟨-d.nanos⟩

end Span

/-! ### Instants -/

namespace Instant

/-- The first second that an instant can have, counted from 1 January 1970. -/
def firstSecond : Int := 86400 * (⟨-262143, 1, 1⟩ : Date).dayNumber

/-- The last second that an instant can have. -/
def lastSecond : Int := 86400 * (⟨262142, 12, 31⟩ : Date).dayNumber + 86399

end Instant

/-- A point of universal time. `second` counts from 1 January 1970 without leap seconds; `nano` is
at least 10^9 in a leap second, which only the last second of a minute has. -/
structure Instant where
  second : Int
  nano : Nat
  first_le : Instant.firstSecond ≤ second
  le_last : second ≤ Instant.lastSecond
  nano_lt : nano < 2000000000
  leap_last : 1000000000 ≤ nano → second % 60 = 59
deriving DecidableEq

namespace Instant

/-- The number of nanoseconds in a second. -/
abbrev perSecond : Int := 1000000000

/-- The instant lies in a leap second. -/
def isLeap (t : Instant) : Bool :=
  1000000000 ≤ t.nano

/-- Nanoseconds since 1 January 1970; those of a leap second run on into the next second. -/
def nanos (t : Instant) : Int :=
  t.second * perSecond + t.nano

/-- The normal instant this many nanoseconds after 1 January 1970, if it is in range. -/
def ofNanos? (n : Int) : Option Instant :=
  if h : firstSecond ≤ n / perSecond ∧ n / perSecond ≤ lastSecond then
    some
      { second := n / perSecond
        nano := (n % perSecond).toNat
        first_le := h.1
        le_last := h.2
        nano_lt := by simp only [perSecond]; omega
        leap_last := by simp only [perSecond]; omega }
  else none

/-- The instant at the start of a second, if it is in range. -/
def ofSecond? (s : Int) : Option Instant :=
  ofNanos? (s * perSecond)

/-- The instant at the start of a millisecond, if it is in range. -/
def ofMillis? (ms : Int) : Option Instant :=
  ofNanos? (ms * 1000000)

/-- The first instant of 1 January 1970. -/
def epoch : Instant where
  second := 0
  nano := 0
  first_le := by decide
  le_last := by decide
  nano_lt := by decide
  leap_last := by decide

/-- Whole milliseconds since 1 January 1970, rounded down; those of a leap second run on into the
next second. -/
def millis (t : Instant) : Int :=
  t.nanos / 1000000

/-! ### Order -/

/-- Instants are ordered by their second, and in one second by their nanoseconds. -/
instance : LT Instant :=
  ⟨fun a b => a.second < b.second ∨ a.second = b.second ∧ a.nano < b.nano⟩

instance : LE Instant :=
  ⟨fun a b => ¬ b < a⟩

/-- Instants are ordered by second, then by nanosecond. -/
theorem lt_def (a b : Instant) :
    a < b ↔ a.second < b.second ∨ a.second = b.second ∧ a.nano < b.nano :=
  Iff.rfl

/-- An instant is at or before another one if the other one is not before it. -/
theorem le_def (a b : Instant) : a ≤ b ↔ ¬ b < a :=
  Iff.rfl

instance (a b : Instant) : Decidable (a < b) :=
  inferInstanceAs (Decidable (_ ∨ _))

instance (a b : Instant) : Decidable (a ≤ b) :=
  inferInstanceAs (Decidable (¬ _))

/-- Which of two instants comes first. -/
def order (a b : Instant) : Ordering :=
  if a < b then .lt else if b < a then .gt else .eq

/-! ### Arithmetic -/

/-- The instant a span away, if it is in range. A span that stays inside a leap second leads to
another instant of it, or back into the second before it. Going on past its end, the leap second
counts as the second before it; going back beyond that second, it counts as the second after it. -/
def shift? (t : Instant) (d : Span) : Option Instant :=
  if h : t.isLeap = true ∧ -perSecond < d.nanos ∧ d.nanos < perSecond
      ∧ t.nano + d.nanos < 2 * perSecond then
    some
      { t with
        nano := (t.nano + d.nanos).toNat
        nano_lt := by simp only [isLeap, decide_eq_true_eq, perSecond] at h; omega
        leap_last := fun _ => t.leap_last (by simpa [isLeap] using h.1) }
  else if t.isLeap = true ∧ 0 < d.nanos then ofNanos? (t.nanos - perSecond + d.nanos)
  else ofNanos? (t.nanos + d.nanos)

/-- An instant plus a span. -/
def add (t : Instant) (d : Span) : Except RangeError Instant :=
  match t.shift? d with
  | some u => .ok u
  | none => .error .sum

/-- An instant minus a span. -/
def sub (t : Instant) (d : Span) : Except RangeError Instant :=
  match t.shift? d.opposite with
  | some u => .ok u
  | none => .error .difference

/-- The second of the day. -/
def secondOfDay (t : Instant) : Int :=
  t.second % 86400

/-- The span from `b` to `a`. A leap second between their times of day counts as a second of its
own; whole days have 86400 seconds. -/
def since (a b : Instant) : Span :=
  let leap : Int :=
    if b.isLeap ∧ b.secondOfDay < a.secondOfDay then 1
    else if a.isLeap ∧ a.secondOfDay < b.secondOfDay then -1
    else 0
  ⟨(a.second - b.second + leap) * perSecond + (a.nano - b.nano)⟩

/-! ### Away from leap seconds -/

/-- Outside leap seconds there are fewer than a billion nanoseconds. -/
theorem isLeap_eq_false_iff (t : Instant) : t.isLeap = false ↔ t.nano < 1000000000 := by
  simp [isLeap]

/-- Instants with the same fields are equal. -/
theorem ext_fields {a b : Instant} (hs : a.second = b.second) (hn : a.nano = b.nano) : a = b := by
  cases a; cases b; cases hs; cases hn; rfl

/-- Away from leap seconds the order is that of the nanoseconds. -/
theorem lt_iff_nanos_lt {a b : Instant} (ha : a.isLeap = false) (hb : b.isLeap = false) :
    a < b ↔ a.nanos < b.nanos := by
  rw [isLeap_eq_false_iff] at ha hb
  simp only [lt_def, nanos, perSecond]
  omega

/-- A normal instant is found again from its nanoseconds. -/
theorem ofNanos?_nanos {t : Instant} (h : t.isLeap = false) : ofNanos? t.nanos = some t := by
  rw [isLeap_eq_false_iff] at h
  have hs : t.nanos / perSecond = t.second := by simp only [nanos, perSecond]; omega
  have hn : (t.nanos % perSecond).toNat = t.nano := by simp only [nanos, perSecond]; omega
  unfold ofNanos?
  rw [dif_pos (by rw [hs]; exact ⟨t.first_le, t.le_last⟩)]
  exact congrArg some (ext_fields hs hn)

/-- An instant made from nanoseconds is normal and has just those. -/
theorem nanos_of_ofNanos? {n : Int} {t : Instant} (h : ofNanos? n = some t) :
    t.isLeap = false ∧ t.nanos = n := by
  unfold ofNanos? at h
  split at h
  · obtain rfl := Option.some.inj h
    simp only [isLeap_eq_false_iff, nanos, perSecond]
    omega
  · exact absurd h (by simp)

/-- Away from leap seconds a sum is the instant with the sum of the nanoseconds, if there is one. -/
theorem add_eq_ok_iff {t u : Instant} {d : Span} (ht : t.isLeap = false) :
    t.add d = .ok u ↔ u.isLeap = false ∧ u.nanos = t.nanos + d.nanos := by
  have hs : t.shift? d = ofNanos? (t.nanos + d.nanos) := by simp [shift?, ht]
  rw [add, hs]
  constructor
  · intro h
    split at h
    · next v hv => obtain rfl := Except.ok.inj h; exact nanos_of_ofNanos? hv
    · exact absurd h (by simp)
  · rintro ⟨hu, hn⟩
    rw [← hn, ofNanos?_nanos hu]

end Instant

end Household
