import Household.Instant.Basic
import Mathlib.Order.MinMax

/-!
# The Order of Instants, and Shifts Along It

Instants are linearly ordered, leap seconds included. Away from leap seconds a shift is addition of
nanoseconds, so that it is monotone and fails exactly outside the range. A shift back by a span that
is not negative fails exactly before the first instant, in a leap second as well as outside of one.

## Main results

* `exists_sub_eq_ok_iff`: going back is possible as long as the first instant is not passed.
* `le_of_sub_eq_ok`: going back leads to an instant that is not later.
* `exists_add_eq_ok_iff`: away from leap seconds a sum is possible inside the range.
* `nanos_since`: away from leap seconds a span is a difference of nanoseconds.
-/

namespace Household.Instant

/-- Instants are linearly ordered by second and nanosecond. -/
instance : LinearOrder Instant where
  le_refl a := by
    simp only [le_def, lt_def]
    omega
  le_trans a b c := by
    simp only [le_def, lt_def]
    omega
  le_antisymm a b hab hba := by
    simp only [le_def, lt_def] at hab hba
    exact ext_fields (by omega) (by omega)
  lt_iff_le_not_ge a b := by
    simp only [le_def, lt_def]
    omega
  le_total a b := by
    simp only [le_def, lt_def]
    omega
  toDecidableLE := inferInstance

/-- Away from leap seconds the weak order is that of the nanoseconds as well. -/
theorem le_iff_nanos_le {a b : Instant} (ha : a.isLeap = false) (hb : b.isLeap = false) :
    a ≤ b ↔ a.nanos ≤ b.nanos := by
  rw [le_def, lt_iff_nanos_lt hb ha, Int.not_lt]

/-- The later of two instants, as an alternative. -/
theorem ite_lt_eq_max (a b : Instant) : (if a < b then b else a) = max a b := by
  by_cases h : a < b
  · rw [if_pos h, max_eq_right h.le]
  · rw [if_neg h, max_eq_left (not_lt.mp h)]

/-! ### The range -/

/-- The nanoseconds of the first instant. -/
def firstNanos : Int := firstSecond * perSecond

/-- The nanoseconds of the last instant outside a leap second. -/
def lastNanos : Int := lastSecond * perSecond + 999999999

/-- The first second in numbers. -/
theorem firstSecond_eq : firstSecond = -8334601228800 := by decide

/-- The last second in numbers. -/
theorem lastSecond_eq : lastSecond = 8210266876799 := by decide

/-- No instant is before the first one. -/
theorem firstNanos_le_nanos (t : Instant) : firstNanos ≤ t.nanos := by
  have := t.first_le
  simp only [firstNanos, nanos, perSecond]
  omega

/-- No instant outside leap seconds is after the last one. -/
theorem nanos_le_lastNanos {t : Instant} (h : t.isLeap = false) : t.nanos ≤ lastNanos := by
  rw [isLeap_eq_false_iff] at h
  have := t.le_last
  simp only [lastNanos, nanos, perSecond]
  omega

/-- There is a normal instant for every number of nanoseconds in the range. -/
theorem exists_ofNanos?_eq_some_iff (n : Int) :
    (∃ t, ofNanos? n = some t) ↔ firstNanos ≤ n ∧ n ≤ lastNanos := by
  have hrange : (firstSecond ≤ n / perSecond ∧ n / perSecond ≤ lastSecond) ↔
      firstNanos ≤ n ∧ n ≤ lastNanos := by
    simp only [firstNanos, lastNanos, perSecond]
    omega
  rw [← hrange, ofNanos?]
  split
  · next h => exact ⟨fun _ => h, fun _ => ⟨_, rfl⟩⟩
  · next h =>
    constructor
    · rintro ⟨_, h'⟩
      exact absurd h' (by simp)
    · intro h'
      exact absurd h' h

/-! ### Going back -/

/-- No step back leads to the same instant. -/
@[simp] theorem sub_zero (t : Instant) : t.sub .zero = .ok t := by
  by_cases hl : t.isLeap = true
  · have hn := t.nano_lt
    have hs : t.shift? Span.zero.opposite = some t := by
      have hinside : t.nano + Span.zero.opposite.nanos < 2 * perSecond := by
        simp only [Span.opposite, Span.zero, perSecond]
        omega
      rw [shift?, dif_pos ⟨hl, by decide, by decide, hinside⟩]
      exact congrArg some (ext_fields rfl (by simp [Span.opposite, Span.zero]))
    rw [sub, hs]
  · have hl' : t.isLeap = false := by simpa using hl
    have hs : t.shift? Span.zero.opposite = some t := by
      simp [shift?, hl', Span.opposite, Span.zero, ofNanos?_nanos hl']
    rw [sub, hs]

/-- Away from leap seconds a difference is the instant with the difference of the nanoseconds. -/
theorem sub_eq_ok_iff {t u : Instant} {d : Span} (ht : t.isLeap = false) :
    t.sub d = .ok u ↔ u.isLeap = false ∧ u.nanos = t.nanos - d.nanos := by
  have hs : t.shift? d.opposite = ofNanos? (t.nanos - d.nanos) := by
    simp [shift?, ht, Span.opposite, Int.sub_eq_add_neg]
  rw [sub, hs]
  constructor
  · intro h
    split at h
    · next v hv =>
      obtain rfl := Except.ok.inj h
      exact nanos_of_ofNanos? hv
    · exact absurd h (by simp)
  · rintro ⟨hu, hn⟩
    rw [← hn, ofNanos?_nanos hu]

/-- Going back leads to an instant that is not later. -/
theorem le_of_sub_eq_ok {t u : Instant} {d : Span} (ht : t.isLeap = false) (hd : 0 ≤ d.nanos)
    (h : t.sub d = .ok u) : u ≤ t := by
  obtain ⟨hu, hn⟩ := (sub_eq_ok_iff ht).mp h
  rw [le_iff_nanos_le hu ht]
  omega

/-- A difference that there is not is a range error of its own kind. -/
theorem sub_eq_error {t : Instant} {d : Span} {e : RangeError} (h : t.sub d = .error e) :
    e = .difference := by
  rw [sub] at h
  split at h
  · exact absurd h (by simp)
  · exact (Except.error.inj h).symm

/-- **Going back is possible as long as the first instant is not passed**, also out of a leap
second. -/
theorem exists_sub_eq_ok_iff {t : Instant} {d : Span} (hd : 0 ≤ d.nanos) :
    (∃ u, t.sub d = .ok u) ↔ firstNanos ≤ t.nanos - d.nanos := by
  have hfirst := t.first_le
  have hlast := t.le_last
  have hnano := t.nano_lt
  have hsub : (∃ u, t.sub d = .ok u) ↔ ∃ u, t.shift? d.opposite = some u := by
    rw [sub]
    cases t.shift? d.opposite <;> simp
  rw [hsub, shift?]
  split
  · -- The whole way back stays inside the leap second and the second that it follows.
    next h =>
    have hleap : 1000000000 ≤ t.nano := by simpa [isLeap] using h.1
    simp only [Span.opposite, perSecond] at h
    refine iff_of_true ⟨_, rfl⟩ ?_
    simp only [firstNanos, nanos, perSecond]
    omega
  · next h =>
    rw [if_neg (by simp only [Span.opposite, not_and]; omega), exists_ofNanos?_eq_some_iff]
    simp only [Span.opposite, Int.sub_eq_add_neg, and_iff_left_iff_imp]
    intro _
    simp only [isLeap, decide_eq_true_eq, Span.opposite, perSecond] at h
    simp only [lastNanos, nanos, perSecond]
    omega

/-! ### Sums -/

/-- Away from leap seconds a sum is possible inside the range. -/
theorem exists_add_eq_ok_iff {t : Instant} {d : Span} (ht : t.isLeap = false) :
    (∃ u, t.add d = .ok u) ↔
      firstNanos ≤ t.nanos + d.nanos ∧ t.nanos + d.nanos ≤ lastNanos := by
  have hs : t.shift? d = ofNanos? (t.nanos + d.nanos) := by simp [shift?, ht]
  have hadd : (∃ u, t.add d = .ok u) ↔ ∃ u, ofNanos? (t.nanos + d.nanos) = some u := by
    rw [add, hs]
    cases ofNanos? (t.nanos + d.nanos) <;> simp
  rw [hadd, exists_ofNanos?_eq_some_iff]

/-- Away from leap seconds a span between instants is the difference of their nanoseconds. -/
theorem nanos_since {a b : Instant} (ha : a.isLeap = false) (hb : b.isLeap = false) :
    (a.since b).nanos = a.nanos - b.nanos := by
  simp only [since, ha, hb, Bool.false_eq_true, false_and, if_false, nanos, perSecond]
  omega

end Household.Instant

namespace Household

/-! ### The end of the range -/

/-- The start of the leap second at the end of the range. -/
def lastLeap : Instant where
  second := Instant.lastSecond
  nano := 1000000000
  first_le := by decide
  le_last := by decide
  nano_lt := by decide
  leap_last := by decide

end Household
