import Household.Proofs.Alarm.Bounds

/-!
# What a Row Loses

The start of an alarm is kept as a number of milliseconds, and read back as the instant at which
that millisecond starts. So a finer part is cut off, also before 1970, and a leap second becomes
part of the second after it. There is such an instant for every start but one in a leap second at
the very end of the range of instants; this one, like every other number of milliseconds out of
range, is read as the epoch.

## Main results

* `Instant.ofMillis?_eq_some_iff`: at most one instant starts a millisecond.
* `Instant.exists_isStartOf_millis_iff`: only one second has no such instants.
* `Row.toRow_toAlarm_eq_iff`: which rows are read and written back as they were.
* `forall_kept`: all that is lost, for every alarm and every row.
-/

namespace Household

/-! ### Starts of milliseconds -/

namespace Instant

variable {t u : Instant} {ms : Int}

/-- The millisecond starts at this instant, which lies outside leap seconds. -/
structure IsStartOf (ms : Int) (t : Instant) : Prop where
  isLeap_eq : t.isLeap = false
  isWhole : t.IsWhole
  millis_eq : t.millis = ms

/-- The instant that starts a millisecond has just its nanoseconds. -/
theorem IsStartOf.nanos_eq (h : IsStartOf ms t) : t.nanos = ms * 1000000 := by
  obtain ⟨-, hwhole, hmillis⟩ := h
  simp only [IsWhole, millis, nanos, perSecond] at hwhole hmillis ⊢
  omega

/-- **A number of milliseconds is read as the instant that starts the millisecond.** -/
theorem ofMillis?_eq_some_iff : ofMillis? ms = some t ↔ IsStartOf ms t := by
  constructor
  · intro h
    obtain ⟨hleap, hnanos⟩ := nanos_of_ofNanos? h
    refine ⟨hleap, ?_, ?_⟩
    · simp only [IsWhole]
      simp only [nanos, perSecond] at hnanos
      omega
    · rw [millis, hnanos]
      omega
  · intro h
    rw [ofMillis?, ← h.nanos_eq, ofNanos?_nanos h.isLeap_eq]

/-- No other instant starts the millisecond. -/
theorem IsStartOf.unique (ht : IsStartOf ms t) (hu : IsStartOf ms u) : t = u :=
  Option.some.inj ((ofMillis?_eq_some_iff.mpr ht).symm.trans (ofMillis?_eq_some_iff.mpr hu))

/-- The milliseconds that have a start are those in the range of instants. -/
theorem exists_isStartOf_iff :
    (∃ t, IsStartOf ms t) ↔ firstSecond * 1000 ≤ ms ∧ ms ≤ lastSecond * 1000 + 999 := by
  simp only [← ofMillis?_eq_some_iff, ofMillis?, exists_ofNanos?_eq_some_iff, firstNanos, lastNanos,
    perSecond]
  omega

/-- **Only in a leap second at the end of the range do instants lie in a millisecond without a
start.** -/
theorem exists_isStartOf_millis_iff (t : Instant) :
    (∃ u, IsStartOf t.millis u) ↔ ¬ (t.isLeap = true ∧ t.second = lastSecond) := by
  have hfirst := t.first_le
  have hlast := t.le_last
  have hnano := t.nano_lt
  simp only [exists_isStartOf_iff, millis, nanos, perSecond, isLeap, decide_eq_true_eq]
  omega

/-- The epoch starts the millisecond zero. -/
theorem isStartOf_epoch : IsStartOf 0 epoch :=
  ⟨rfl, rfl, rfl⟩

/-- Away from leap seconds the start of a millisecond is at most a millisecond ahead of what lies
in it. -/
theorem IsStartOf.le_and_since_lt (h : IsStartOf t.millis u) (ht : t.isLeap = false) :
    u ≤ t ∧ (t.since u).nanos < 1000000 := by
  have hnanos := h.nanos_eq
  rw [le_iff_nanos_le h.isLeap_eq ht, nanos_since ht h.isLeap_eq, hnanos, millis]
  omega

/-- Away from leap seconds the starts of milliseconds come in the order of what lies in them. -/
theorem IsStartOf.le_of_le {t' u' : Instant} (h : IsStartOf t.millis u)
    (h' : IsStartOf t'.millis u') (ht : t.isLeap = false) (ht' : t'.isLeap = false)
    (hle : t ≤ t') : u ≤ u' := by
  rw [le_iff_nanos_le ht ht'] at hle
  rw [le_iff_nanos_le h.isLeap_eq h'.isLeap_eq, h.nanos_eq, h'.nanos_eq, millis, millis]
  omega

end Instant

/-! ### Rows -/

namespace Row

variable {r : Row}

/-- A row is read with the start of its millisecond. -/
theorem start_toAlarm {t : Instant} (h : Instant.IsStartOf r.startMs.toInt t) :
    r.toAlarm.start = t := by
  rw [toAlarm, Instant.ofMillis?_eq_some_iff.mpr h, Option.getD_some]

/-- A row of which the millisecond has no start is read with the epoch. -/
theorem start_toAlarm_eq_epoch (h : ¬ ∃ t, Instant.IsStartOf r.startMs.toInt t) :
    r.toAlarm.start = .epoch := by
  have hnone : Instant.ofMillis? r.startMs.toInt = none :=
    Option.eq_none_iff_forall_ne_some.mpr fun t ht => h ⟨t, Instant.ofMillis?_eq_some_iff.mp ht⟩
  rw [toAlarm, hnone, Option.getD_none]

/-- A row is written back with the milliseconds with which it was read. -/
theorem toRow_toAlarm_eq_iff_millis :
    r.toAlarm.toRow = r ↔ r.toAlarm.start.millis = r.startMs.toInt := by
  rw [← Alarm.toInt_startMs_toRow, Int64.toInt_inj]
  constructor
  · exact congrArg Row.startMs
  · intro h
    exact congrArg (fun startMs => { r with startMs }) h

/-- **The rows that are read and written back as they were** are those of which the millisecond has
a start. -/
theorem toRow_toAlarm_eq_iff :
    r.toAlarm.toRow = r ↔ ∃ t, Instant.IsStartOf r.startMs.toInt t := by
  rw [toRow_toAlarm_eq_iff_millis]
  constructor
  · intro h
    by_contra hnone
    -- Only the millisecond zero is written back of the epoch, and this one has a start.
    rw [start_toAlarm_eq_epoch hnone] at h
    exact hnone ⟨.epoch, h ▸ Instant.isStartOf_epoch⟩
  · rintro ⟨t, ht⟩
    rw [start_toAlarm ht, ht.millis_eq]

end Row

/-! ### Alarms -/

namespace Alarm

variable {a b : Alarm}

/-- The start that comes back is that of the same millisecond. -/
theorem start_stored_eq {t : Instant} (h : Instant.IsStartOf a.start.millis t) :
    a.stored.start = t :=
  Row.start_toAlarm (by rwa [toInt_startMs_toRow])

/-- The start that comes back is the epoch, if the millisecond has no start. -/
theorem start_stored_eq_epoch (h : ¬ ∃ t, Instant.IsStartOf a.start.millis t) :
    a.stored.start = .epoch :=
  Row.start_toAlarm_eq_epoch (by rwa [toInt_startMs_toRow])

/-- Away from leap seconds the start that comes back starts the millisecond. -/
theorem isStartOf_start_stored (h : a.start.isLeap = false) :
    Instant.IsStartOf a.start.millis a.stored.start := by
  obtain ⟨t, ht⟩ := (Instant.exists_isStartOf_millis_iff a.start).mpr (by simp [h])
  rwa [start_stored_eq ht]

/-- What comes back starts its own millisecond. -/
theorem isStartOf_millis_start_stored (a : Alarm) :
    Instant.IsStartOf a.stored.start.millis a.stored.start := by
  by_cases h : ∃ t, Instant.IsStartOf a.start.millis t
  · obtain ⟨t, ht⟩ := h
    rw [start_stored_eq ht, ht.millis_eq]
    exact ht
  · rw [start_stored_eq_epoch h]
    exact Instant.isStartOf_epoch

/-- What comes back from a row comes back from a row again. -/
theorem stored_stored (a : Alarm) : a.stored.stored = a.stored := by
  have hstart : a.stored.stored.start = a.stored.start :=
    start_stored_eq (isStartOf_millis_start_stored a)
  exact congrArg (fun start => { a.stored with start }) hstart

/-- What a row leaves of an alarm. -/
structure Kept (a b : Alarm) : Prop where
  id_eq : b.id = a.id
  deviceName_eq : b.deviceName = a.deviceName
  durationMs_eq : b.durationMs = a.durationMs
  /-- The start is that of its millisecond, if there is one. -/
  start_eq : ∀ t, Instant.IsStartOf a.start.millis t → b.start = t
  /-- There is one, but for a leap second at the end of the range. -/
  exists_isStartOf_iff : (∃ t, Instant.IsStartOf a.start.millis t) ↔
    ¬ (a.start.isLeap = true ∧ a.start.second = Instant.lastSecond)
  /-- Without one the start is lost. -/
  start_eq_epoch : a.start.isLeap = true → a.start.second = Instant.lastSecond →
    b.start = .epoch
  /-- Outside leap seconds less than a millisecond is cut off. -/
  start_le : a.start.isLeap = false → b.start ≤ a.start ∧ (a.start.since b.start).nanos < 1000000

/-- An alarm is kept in its row but for what milliseconds cannot hold. -/
theorem kept_stored (a : Alarm) : a.Kept a.stored where
  id_eq := rfl
  deviceName_eq := rfl
  durationMs_eq := rfl
  start_eq _ h := start_stored_eq h
  exists_isStartOf_iff := Instant.exists_isStartOf_millis_iff a.start
  start_eq_epoch hleap hlast := by
    have hnone := (Instant.exists_isStartOf_millis_iff a.start).not.mpr (not_not.mpr ⟨hleap, hlast⟩)
    exact start_stored_eq_epoch hnone
  start_le h := (isStartOf_start_stored h).le_and_since_lt h

end Alarm

/-- **All that a row loses.** What comes back of an alarm is the alarm but for the start, which is
that of its millisecond; from then on nothing is lost, and outside leap seconds no alarm is moved
behind a later one. A row that is read and written back is the same exactly if its millisecond has a
start, which then is the start that is read, and otherwise the start that is read is the epoch. -/
theorem forall_kept :
    (∀ a : Alarm, a.Kept a.stored ∧ a.stored.stored = a.stored) ∧
      (∀ a b : Alarm, a.start.isLeap = false → b.start.isLeap = false → a.start ≤ b.start →
        a.stored.start ≤ b.stored.start) ∧
      ∀ r : Row, (r.toAlarm.toRow = r ↔ ∃ t, Instant.IsStartOf r.startMs.toInt t) ∧
        (∀ t, Instant.IsStartOf r.startMs.toInt t → r.toAlarm.start = t) ∧
        ((¬ ∃ t, Instant.IsStartOf r.startMs.toInt t) → r.toAlarm.start = .epoch) := by
  refine ⟨fun a => ⟨a.kept_stored, a.stored_stored⟩, fun a b ha hb hle => ?_, fun r => ?_⟩
  · exact (Alarm.isStartOf_start_stored ha).le_of_le (Alarm.isStartOf_start_stored hb) ha hb hle
  · exact ⟨Row.toRow_toAlarm_eq_iff, fun t => Row.start_toAlarm, Row.start_toAlarm_eq_epoch⟩

/-! ### Three starts -/

/-- The last nanosecond of 1969. -/
def lastOf1969 : Instant where
  second := -1
  nano := 999999999
  first_le := by decide
  le_last := by decide
  nano_lt := by decide
  leap_last := by decide

/-- The alarm of a washer with this start. -/
def washerAt (start : Instant) : Alarm :=
  ⟨105, "Washer", start, 300000⟩

/-- The last nanosecond of 1969 is put to the start of its millisecond, which is before the epoch;
the last leap second is put to the epoch; and the highest number of milliseconds is written back as
zero. -/
theorem forall_kept_three :
    ((washerAt lastOf1969).start.isLeap = false ∧ (washerAt .epoch).start.isLeap = false ∧
      (washerAt lastOf1969).start ≤ (washerAt .epoch).start ∧
      (washerAt lastOf1969).stored.start ≤ (washerAt .epoch).stored.start ∧
      (washerAt lastOf1969).stored.start.nanos = -1000000) ∧
    ((washerAt lastLeap).start.isLeap = true ∧
      (washerAt lastLeap).start.second = Instant.lastSecond ∧
      (washerAt lastLeap).stored.start = .epoch) ∧
    (¬ ∃ t, Instant.IsStartOf Int64.maxValue.toInt t) ∧
      (⟨105, "Washer", Int64.maxValue, 300000⟩ : Row).toAlarm.start = .epoch := by
  obtain ⟨halarms, hmonotone, hrows⟩ := forall_kept
  have hout : ¬ ∃ t, Instant.IsStartOf Int64.maxValue.toInt t := by
    rw [Instant.exists_isStartOf_iff, Instant.firstSecond_eq, Instant.lastSecond_eq]
    decide
  refine ⟨⟨rfl, rfl, by decide, hmonotone _ _ rfl rfl (by decide), ?_⟩, ⟨rfl, rfl, ?_⟩, hout,
    (hrows _).2.2 hout⟩
  · exact (Alarm.isStartOf_start_stored rfl).nanos_eq
  · exact (halarms _).1.start_eq_epoch rfl rfl

end Household
