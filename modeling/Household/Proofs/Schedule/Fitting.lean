import Household.Proofs.Alarm.Bounds
import Household.Schedule.Basic

/-!
# Tasks That Fit Their Window

A new task is checked in whole milliseconds: the length of its window is cut to them, toward zero
also where the window ends before it starts. A duration is a whole number of milliseconds anyway.
So the check finds out just whether the run fits, to the nanosecond: a task that is accepted, and
starts with its window, is over when the window ends, and none that could be is refused.

## Main results

* `Window.exists_toInt_eq_millis`: the milliseconds of a window are a 64-bit word.
* `NewTask.isJudged_validate`: which tasks are accepted, and why the others are not.
* `NewTask.Fits.exists_finish`: the run of an accepted task has an end.
-/

namespace Household

/-- The number of nanoseconds in a millisecond. -/
abbrev Span.perMilli : Int := 1000000

/-- Comparing whole milliseconds with a positive number of them is comparing nanoseconds. -/
theorem Span.le_millis_iff {d : Span} {n : Int} (hn : 0 < n) :
    n ≤ d.millis ↔ n * perMilli ≤ d.nanos := by
  rw [perMilli]
  rcases le_or_gt 0 d.nanos with hnonneg | hneg
  · rw [millis, Int.tdiv_eq_ediv_of_nonneg hnonneg]
    omega
  · -- Below zero it is cut upwards, but not beyond zero.
    have hmillis : d.millis ≤ Int.tdiv 0 1000000 := Int.tdiv_le_tdiv (by decide) hneg.le
    rw [Int.zero_tdiv] at hmillis
    omega

/-- The whole milliseconds of a span that is not negative do not exceed it, and less than one is cut
off. -/
theorem Span.eq_millis_iff {d : Span} {n : Int} (hd : 0 ≤ d.nanos) :
    n = d.millis ↔ n * perMilli ≤ d.nanos ∧ d.nanos < (n + 1) * perMilli := by
  rw [millis, Int.tdiv_eq_ediv_of_nonneg hd, perMilli]
  omega

/-! ### Windows -/

namespace Window

/-- Both ends of the window lie outside leap seconds. -/
def IsPlain (w : Window) : Prop :=
  w.start.isLeap = false ∧ w.finish.isLeap = false

instance : DecidablePred IsPlain :=
  fun _ => inferInstanceAs (Decidable (_ ∧ _))

/-- The length of a plain window is the difference of its ends. -/
theorem IsPlain.nanos_length {w : Window} (h : w.IsPlain) :
    w.length.nanos = w.finish.nanos - w.start.nanos :=
  Instant.nanos_since h.2 h.1

/-- The length of a window exceeds the range of instants by a few seconds at most. -/
theorem nanos_length_lt (w : Window) :
    -16544868105603000000000 < w.length.nanos ∧ w.length.nanos < 16544868105603000000000 := by
  have hstart := w.start.first_le
  have hstart' := w.start.le_last
  have hfinish := w.finish.first_le
  have hfinish' := w.finish.le_last
  have hnano := w.start.nano_lt
  have hnano' := w.finish.nano_lt
  simp only [Instant.firstSecond_eq, Instant.lastSecond_eq] at hstart hstart' hfinish hfinish'
  simp only [length, Instant.since, Instant.perSecond]
  -- A leap second between the ends makes the window longer or shorter by a second.
  split
  · omega
  · split <;> omega

/-- **The length of a window is a span.** -/
theorem length_inRange (w : Window) :
    -Span.maxMillis * Span.perMilli ≤ w.length.nanos ∧
      w.length.nanos ≤ Span.maxMillis * Span.perMilli := by
  have hlength := w.nanos_length_lt
  simp only [Span.maxMillis, Span.perMilli]
  omega

/-- **The whole milliseconds of a window are a 64-bit word.** -/
theorem exists_toInt_eq_millis (w : Window) : ∃ ms : Int64, ms.toInt = w.length.millis := by
  obtain ⟨hlow, hhigh⟩ := w.length_inRange
  have hle : w.length.millis ≤ (Span.maxMillis * Span.perMilli).tdiv Span.perMilli :=
    Int.tdiv_le_tdiv (by decide) hhigh
  have hge : (-Span.maxMillis * Span.perMilli).tdiv Span.perMilli ≤ w.length.millis :=
    Int.tdiv_le_tdiv (by decide) hlow
  rw [Int.mul_tdiv_cancel _ (by decide), Span.maxMillis] at hle hge
  exact ⟨Int64.ofInt w.length.millis, Int64.toInt_ofInt_of_le (by omega) (by omega)⟩

end Window

/-! ### New tasks -/

namespace NewTask

variable {t : NewTask}

/-- The run takes some time, and if it starts with the window it ends within it. -/
def Fits (t : NewTask) : Prop :=
  0 < t.durationMs.toInt ∧
    t.window.start.nanos + t.durationMs.toInt * Span.perMilli ≤ t.window.finish.nanos

instance : DecidablePred Fits :=
  fun _ => inferInstanceAs (Decidable (_ ∧ _))

/-- The nanoseconds from the start of the window to its end. -/
def windowNanos (t : NewTask) : Int :=
  t.window.finish.nanos - t.window.start.nanos

/-- What is said of a new task: it is accepted exactly if it fits, and otherwise the first of three
reasons counts. -/
structure IsJudged (t : NewTask) (verdict : Except TaskFault Unit) : Prop where
  ok_iff : verdict = .ok () ↔ t.Fits
  emptyWindow_iff : verdict = .error .emptyWindow ↔ t.windowNanos < Span.perMilli
  nonPositiveDuration_iff : verdict = .error .nonPositiveDuration ↔
    Span.perMilli ≤ t.windowNanos ∧ t.durationMs.toInt ≤ 0
  /-- The fault names the duration, and the whole milliseconds of the window. -/
  durationExceedsWindow_iff : ∀ durationMs windowMs,
    verdict = .error (.durationExceedsWindow durationMs windowMs) ↔
      Span.perMilli ≤ t.windowNanos ∧ 0 < t.durationMs.toInt ∧
        t.windowNanos < t.durationMs.toInt * Span.perMilli ∧ durationMs = t.durationMs ∧
        windowMs * Span.perMilli ≤ t.windowNanos ∧
        t.windowNanos < (windowMs + 1) * Span.perMilli

/-- A window of less than a millisecond is refused, whatever the duration. -/
theorem IsJudged.emptyWindow (h : t.windowNanos < Span.perMilli) :
    t.IsJudged (.error .emptyWindow) where
  ok_iff := by
    refine iff_of_false (by simp) ?_
    rintro ⟨hpos, hle⟩
    simp only [windowNanos, Span.perMilli] at h hle
    omega
  emptyWindow_iff := iff_of_true rfl h
  nonPositiveDuration_iff := iff_of_false (by simp) fun h' => absurd h'.1 (not_le.mpr h)
  durationExceedsWindow_iff _ _ := iff_of_false (by simp) fun h' => absurd h'.1 (not_le.mpr h)

/-- Otherwise a duration that is not positive is refused. -/
theorem IsJudged.nonPositiveDuration (h : Span.perMilli ≤ t.windowNanos)
    (hduration : t.durationMs.toInt ≤ 0) : t.IsJudged (.error .nonPositiveDuration) where
  ok_iff := iff_of_false (by simp) fun hfits => absurd hfits.1 (not_lt.mpr hduration)
  emptyWindow_iff := iff_of_false (by simp) (not_lt.mpr h)
  nonPositiveDuration_iff := iff_of_true rfl ⟨h, hduration⟩
  durationExceedsWindow_iff _ _ :=
    iff_of_false (by simp) fun h' => absurd h'.2.1 (not_lt.mpr hduration)

/-- Otherwise a duration beyond the window is refused. -/
theorem IsJudged.durationExceedsWindow {windowMs : Int} (h : Span.perMilli ≤ t.windowNanos)
    (hduration : 0 < t.durationMs.toInt)
    (hlong : t.windowNanos < t.durationMs.toInt * Span.perMilli)
    (hwindow : windowMs * Span.perMilli ≤ t.windowNanos ∧
      t.windowNanos < (windowMs + 1) * Span.perMilli) :
    t.IsJudged (.error (.durationExceedsWindow t.durationMs windowMs)) where
  ok_iff := by
    refine iff_of_false (by simp) ?_
    rintro ⟨-, hle⟩
    simp only [windowNanos] at hlong
    omega
  emptyWindow_iff := iff_of_false (by simp) (not_lt.mpr h)
  nonPositiveDuration_iff := iff_of_false (by simp) fun h' => absurd h'.2 (not_le.mpr hduration)
  durationExceedsWindow_iff durationMs windowMs' := by
    simp only [Except.error.injEq, TaskFault.durationExceedsWindow.injEq]
    constructor
    · rintro ⟨rfl, rfl⟩
      exact ⟨h, hduration, hlong, rfl, hwindow⟩
    · rintro ⟨-, -, -, rfl, hwindow'⟩
      refine ⟨rfl, ?_⟩
      simp only [Span.perMilli] at hwindow hwindow'
      omega

/-- A task that fits is accepted. -/
theorem IsJudged.ok (h : t.Fits) : t.IsJudged (.ok ()) where
  ok_iff := iff_of_true rfl h
  emptyWindow_iff := by
    refine iff_of_false (by simp) (not_lt.mpr ?_)
    obtain ⟨hpos, hle⟩ := h
    simp only [windowNanos, Span.perMilli] at hle ⊢
    omega
  nonPositiveDuration_iff := iff_of_false (by simp) fun h' => absurd h'.2 (not_le.mpr h.1)
  durationExceedsWindow_iff _ _ := by
    refine iff_of_false (by simp) fun h' => absurd h'.2.2.1 (not_lt.mpr ?_)
    have hle := h.2
    simp only [windowNanos]
    omega

/-- **A new task in a plain window is accepted exactly if it fits, to the nanosecond.** -/
theorem isJudged_validate (h : t.window.IsPlain) : t.IsJudged t.validate := by
  have hlength : t.window.length.nanos = t.windowNanos := h.nanos_length
  have hempty : 1 ≤ t.window.length.millis ↔ Span.perMilli ≤ t.windowNanos := by
    rw [Span.le_millis_iff (by decide), hlength, Int.one_mul]
  unfold validate
  dsimp only
  split
  · next hmillis => exact .emptyWindow (not_le.mp (mt hempty.mpr (by omega)))
  · next hmillis =>
    have hwindow := hempty.mp (by omega)
    split
    · next hduration => exact .nonPositiveDuration hwindow hduration
    · next hduration =>
      have hpos : 0 < t.durationMs.toInt := by omega
      have hfits := Span.le_millis_iff (d := t.window.length) hpos
      rw [hlength] at hfits
      split
      · next hlong =>
        have hnonneg : 0 ≤ t.window.length.nanos := by
          rw [hlength]
          exact le_trans (by decide) hwindow
        have hcut := (Span.eq_millis_iff hnonneg).mp rfl
        rw [hlength] at hcut
        exact .durationExceedsWindow hwindow hpos (by omega) hcut
      · next hlong =>
        have hle := hfits.mp (by omega)
        simp only [windowNanos] at hle
        exact .ok ⟨hpos, by omega⟩

/-- **The run of a task that fits has an end**, which is within the window. -/
theorem Fits.exists_finish (hfits : t.Fits) (h : t.window.IsPlain) (id : Int64) :
    ∃ d finish, (t.withId id).duration = .ok d ∧ t.window.start.add d = .ok finish ∧
      finish ≤ t.window.finish := by
  obtain ⟨hpos, hle⟩ := hfits
  have hmin : t.durationMs ≠ Int64.minValue := by
    intro hmin
    rw [hmin] at hpos
    exact absurd hpos (by decide)
  have hfirst := t.window.start.firstNanos_le_nanos
  have hlast := Instant.nanos_le_lastNanos h.2
  have hrange : Instant.firstNanos ≤ t.window.start.nanos + t.durationMs.toInt * Span.perMilli ∧
      t.window.start.nanos + t.durationMs.toInt * Span.perMilli ≤ Instant.lastNanos := by
    refine ⟨?_, hle.trans hlast⟩
    rw [Span.perMilli]
    omega
  obtain ⟨finish, hfinish⟩ :=
    (Instant.exists_add_eq_ok_iff (d := ⟨t.durationMs.toInt * Span.perMilli⟩) h.1).mpr hrange
  obtain ⟨hplain, hnanos⟩ := (Instant.add_eq_ok_iff h.1).mp hfinish
  refine ⟨_, finish, Span.ofMillis_eq_ok_iff.mpr ⟨hmin, rfl⟩, hfinish, ?_⟩
  rw [Instant.le_iff_nanos_le hplain h.2, hnanos]
  exact hle

end NewTask

end Household
