import Household.Proofs.Alarm.Handling
import Mathlib.Order.Bounds.Basic

/-!
# The Minutes Until the Start

A notice to get ready tells how many minutes are left until the start. The time left is first cut
to whole seconds, and these are then rounded up to whole minutes. So after that many minutes less
than a second is left, and no smaller number leads as far. Mostly the start has come by then. Only
where the time left goes beyond whole minutes by less than a second this part of a second has been
cut off, and one minute is missing; in the last second the notice says that no minutes are left.

## Main results

* `isLeast_nearlyReaches`: the minutes that are told lead to within a second of the start.
* `isLeast_reaches`: the minutes that lead up to it.
* `exists_getReady_isLeast_iff`: when the two are the same, for the notice of an alarm.
-/

namespace Household.Notice

/-- The number of nanoseconds in a minute. -/
abbrev perMinute : Int := 60 * Instant.perSecond

/-- This many minutes from now the start has come. -/
def Reaches (now start : Instant) (minutes : Int) : Prop :=
  start.nanos ≤ now.nanos + minutes * perMinute

/-- This many minutes from now less than a second is left until the start. -/
def NearlyReaches (now start : Instant) (minutes : Int) : Prop :=
  start.nanos < now.nanos + minutes * perMinute + Instant.perSecond

/-- The time left goes beyond whole minutes, by less than a second. -/
def IsJustOver (now start : Instant) : Prop :=
  0 < (start.nanos - now.nanos) % perMinute ∧
    (start.nanos - now.nanos) % perMinute < Instant.perSecond

instance (now start : Instant) : Decidable (IsJustOver now start) :=
  inferInstanceAs (Decidable (_ ∧ _))

variable {now start : Instant}

/-- If there is an instant these minutes from now, it is what they lead to. -/
theorem reaches_iff_of_add {later : Instant} {minutes : Int} (hnow : now.isLeap = false)
    (hstart : start.isLeap = false) (h : now.add ⟨minutes * perMinute⟩ = .ok later) :
    Reaches now start minutes ↔ start ≤ later := by
  obtain ⟨hlater, hnanos⟩ := (Instant.add_eq_ok_iff hnow).mp h
  rw [Instant.le_iff_nanos_le hstart hlater, hnanos, Reaches]

/-! ### From nanoseconds to minutes -/

/-- The minutes of a number of seconds that is not negative. -/
theorem minutesOf_eq {seconds : Int} (h : 0 ≤ seconds) :
    minutesOf seconds = (seconds + 59) / 60 :=
  Int.tdiv_eq_ediv_of_nonneg (by omega)

/-- The minutes that are told of the time left. -/
theorem minutesOf_since (hnow : now.isLeap = false) (hstart : start.isLeap = false)
    (h : now < start) : minutesOf (start.since now).seconds =
      ((start.nanos - now.nanos) / Instant.perSecond + 59) / 60 := by
  rw [Instant.lt_iff_nanos_lt hnow hstart] at h
  have hseconds : (start.since now).seconds = (start.nanos - now.nanos) / Instant.perSecond := by
    rw [Span.seconds, Instant.nanos_since hstart hnow]
    exact Int.tdiv_eq_ediv_of_nonneg (by omega)
  rw [hseconds]
  exact minutesOf_eq (Int.ediv_nonneg (by omega) (by decide))

/-! ### The least number of minutes -/

/-- The minutes that are told, and all greater numbers, lead to within a second of the start. -/
theorem nearlyReaches_iff {m : Int} (hnow : now.isLeap = false) (hstart : start.isLeap = false)
    (h : now < start) : NearlyReaches now start m ↔ minutesOf (start.since now).seconds ≤ m := by
  rw [minutesOf_since hnow hstart h]
  simp only [NearlyReaches, perMinute, Instant.perSecond]
  omega

/-- They lead up to the start, but for one more where the time left is just over. -/
theorem reaches_iff {m : Int} (hnow : now.isLeap = false) (hstart : start.isLeap = false)
    (h : now < start) : Reaches now start m ↔
      minutesOf (start.since now).seconds + (if IsJustOver now start then 1 else 0) ≤ m := by
  rw [minutesOf_since hnow hstart h]
  -- The part of a second that is cut off matters just beyond whole minutes only: elsewhere the
  -- fifty-nine seconds that are added make up for it.
  split
  · next hover =>
    simp only [IsJustOver, Reaches, perMinute, Instant.perSecond] at hover ⊢
    omega
  · next hover =>
    simp only [IsJustOver, Reaches, perMinute, Instant.perSecond] at hover ⊢
    omega

/-- A number is the least one of those from it on. -/
theorem isLeast_of_forall_iff_le {P : Int → Prop} {k : Int} (h : ∀ m, P m ↔ k ≤ m) :
    IsLeast {m | P m} k :=
  ⟨(h k).mpr le_rfl, fun m hm => (h m).mp hm⟩

/-- **The minutes that are told are the least that lead to within a second of the start.** -/
theorem isLeast_nearlyReaches (hnow : now.isLeap = false) (hstart : start.isLeap = false)
    (h : now < start) :
    IsLeast {m | NearlyReaches now start m} (minutesOf (start.since now).seconds) :=
  isLeast_of_forall_iff_le fun _ => nearlyReaches_iff hnow hstart h

/-- **The least that lead up to the start** are those that are told, or one more where the time left
is just over. -/
theorem isLeast_reaches (hnow : now.isLeap = false) (hstart : start.isLeap = false)
    (h : now < start) :
    IsLeast {m | Reaches now start m}
      (minutesOf (start.since now).seconds + if IsJustOver now start then 1 else 0) :=
  isLeast_of_forall_iff_le fun _ => reaches_iff hnow hstart h

/-- The minutes that are told are the least that lead up to the start exactly if the time left is
not just over. -/
theorem isLeast_reaches_iff (hnow : now.isLeap = false) (hstart : start.isLeap = false)
    (h : now < start) :
    IsLeast {m | Reaches now start m} (minutesOf (start.since now).seconds) ↔
      ¬ IsJustOver now start := by
  have hleast := isLeast_reaches hnow hstart h
  by_cases hover : IsJustOver now start
  · -- A set has one least number, and here it is one more than what is told.
    rw [if_pos hover] at hleast
    refine iff_of_false (fun htold => ?_) (not_not.mpr hover)
    have heq := htold.unique hleast
    omega
  · rw [if_neg hover, Int.add_zero] at hleast
    exact iff_of_true hleast hover

/-- No minutes are told exactly in the last second. -/
theorem minutesOf_since_eq_zero_iff (hnow : now.isLeap = false) (hstart : start.isLeap = false)
    (h : now < start) :
    minutesOf (start.since now).seconds = 0 ↔ start.nanos < now.nanos + Instant.perSecond := by
  rw [minutesOf_since hnow hstart h]
  rw [Instant.lt_iff_nanos_lt hnow hstart] at h
  simp only [Instant.perSecond]
  omega

/-- **Ahead of its start an alarm tells the least number of minutes that lead up to the start,
unless the time left goes beyond whole minutes by less than a second; then it tells one less.** In
each case they are the least that lead to within a second of the start, and there are none of them
exactly if it is as near as that already. -/
theorem exists_getReady_isLeast_iff {a : Alarm} (hnow : now.isLeap = false)
    (hstart : a.start.isLeap = false) (h : now < a.start) :
    ∃ minutes, Notice.forAlarm a now = .ok (.getReady a.deviceName minutes) ∧
      (IsLeast {m | Reaches now a.start m} minutes ↔ ¬ IsJustOver now a.start) ∧
      (IsJustOver now a.start → IsLeast {m | Reaches now a.start m} (minutes + 1)) ∧
      IsLeast {m | NearlyReaches now a.start m} minutes ∧
      (minutes = 0 ↔ a.start.nanos < now.nanos + Instant.perSecond) := by
  refine ⟨_, Firing.forAlarm_eq_ok_iff.mpr (.inl ⟨h, rfl⟩), isLeast_reaches_iff hnow hstart h,
    fun hover => ?_, isLeast_nearlyReaches hnow hstart h,
    minutesOf_since_eq_zero_iff hnow hstart h⟩
  have hleast := isLeast_reaches hnow hstart h
  rwa [if_pos hover] at hleast

/-! ### In the morning -/

/-- Ten o'clock in the morning. -/
def tenOClock : Instant :=
  { Instant.epoch with
    second := 1705312800
    first_le := by decide
    le_last := by decide
    leap_last := by decide }

/-- Half a second after ten o'clock. -/
def halfASecondPast : Instant :=
  { tenOClock with
    nano := 500000000
    nano_lt := by decide
    leap_last := by decide }

/-- A minute and a second after ten o'clock. -/
def minuteAndSecondPast : Instant :=
  { tenOClock with
    second := 1705312861
    first_le := by decide
    le_last := by decide
    leap_last := by decide }

/-- With a minute and a second left, two minutes are told. -/
theorem exists_getReady_isLeast_iff_minuteAndSecond :
    tenOClock.isLeap = false ∧ minuteAndSecondPast.isLeap = false ∧
      tenOClock < minuteAndSecondPast ∧ ¬ IsJustOver tenOClock minuteAndSecondPast ∧
      Notice.forAlarm ⟨1, "Washer", minuteAndSecondPast, 300000⟩ tenOClock =
        .ok (.getReady "Washer" 2) ∧
      IsLeast {m | Reaches tenOClock minuteAndSecondPast m} 2 := by
  have hover : ¬ IsJustOver tenOClock minuteAndSecondPast := by decide
  obtain ⟨minutes, hnotice, hleast, -⟩ :=
    exists_getReady_isLeast_iff (a := ⟨1, "Washer", minuteAndSecondPast, 300000⟩)
      (show tenOClock.isLeap = false from rfl) rfl (by decide)
  obtain rfl : minutes = 2 := by
    cases hnotice
    rfl
  exact ⟨rfl, rfl, by decide, hover, hnotice, hleast.mpr hover⟩

/-- With half a second left it is said that the run starts in no minutes. -/
theorem exists_getReady_not_isLeast :
    ∃ (a : Alarm) (now : Instant) (notice : Notice), now.isLeap = false ∧
      a.start.isLeap = false ∧ now < a.start ∧ Notice.forAlarm a now = .ok notice ∧
      notice = .getReady a.deviceName 0 ∧ notice.body .universal = "Starts in 0 minutes, get ready" ∧
      ¬ IsLeast {m | Reaches now a.start m} 0 := by
  refine ⟨⟨1, "Washer", halfASecondPast, 300000⟩, tenOClock, .getReady "Washer" 0, rfl, rfl,
    by decide, rfl, rfl, by decide +kernel, fun hleast => ?_⟩
  have hover : IsJustOver tenOClock halfASecondPast := by decide
  exact (isLeast_reaches_iff rfl rfl (by decide)).mp hleast hover

end Household.Notice
