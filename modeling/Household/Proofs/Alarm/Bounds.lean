import Household.Alarm.Row
import Household.Proofs.Instant.Order

/-!
# Alarms Within the Range of Instants

An alarm leads to two more instants, the start less the lead and the start plus the duration. The
first need not exist when the lead is long, the second when the duration is; nothing bounds a
duration, which is any word that the server sends. Here is said when there are such instants.

## Main results

* `firstFire_eq_ok_iff_max`: when an alarm first fires.
* `Alarm.leadFits_iff`: an alarm has a time to fire first exactly if the lead fits.
* `Alarm.hasEnd_iff`: which alarms have an end.
* `Alarm.stored_of_isWhole`: which starts a row keeps as they are.
* `Alarm.start_stored_le`: a row does not put off the start.
-/

namespace Household

/-! ### The time to fire first -/

/-- There is a due time exactly if there is a start less the lead. -/
theorem exists_firstFire_eq_ok_iff {now start : Instant} {lead : Span} :
    (∃ due, firstFire now start lead = .ok due) ↔ ∃ ahead, start.sub lead = .ok ahead := by
  simp only [firstFire_eq_ok_iff]
  constructor
  · rintro ⟨_, ahead, h, _⟩
    exact ⟨ahead, h⟩
  · rintro ⟨ahead, h⟩
    exact ⟨_, ahead, h, rfl⟩

/-- An alarm first fires at the later of now and the start less the lead. -/
theorem firstFire_eq_ok_iff_max {now start due : Instant} {lead : Span} :
    firstFire now start lead = .ok due ↔
      ∃ ahead, start.sub lead = .ok ahead ∧ due = max now ahead := by
  simp only [firstFire_eq_ok_iff, Instant.ite_lt_eq_max]

/-- There is time for the lead between the first instant and the start. -/
def Alarm.LeadFits (lead : Span) (a : Alarm) : Prop :=
  Instant.firstNanos ≤ a.start.nanos - lead.nanos

instance (lead : Span) : DecidablePred (Alarm.LeadFits lead) :=
  fun _ => inferInstanceAs (Decidable (_ ≤ _))

/-- The lead fits exactly if the alarm has a time to fire first. -/
theorem Alarm.leadFits_iff {lead : Span} (hlead : 0 ≤ lead.nanos) (now : Instant) (a : Alarm) :
    a.LeadFits lead ↔ ∃ due, firstFire now a.start lead = .ok due := by
  rw [exists_firstFire_eq_ok_iff, Instant.exists_sub_eq_ok_iff hlead, LeadFits]

/-! ### The end -/

/-- Only the least word is no number of milliseconds. -/
theorem Span.ofMillis_eq_ok_iff {ms : Int64} {d : Span} :
    ofMillis ms = .ok d ↔ ms ≠ Int64.minValue ∧ d = ⟨ms.toInt * 1000000⟩ := by
  have hmin : ms.toInt < -maxMillis ↔ ms = Int64.minValue := by
    have hle := Int64.le_toInt ms
    rw [← Int64.toInt_inj, Int64.toInt_minValue, maxMillis]
    omega
  by_cases h : ms = Int64.minValue
  · rw [ofMillis, if_pos (hmin.mpr h)]
    simp [h]
  · rw [ofMillis, if_neg (mt hmin.mp h)]
    simp [h, eq_comm]

/-- The instant is a whole number of milliseconds. -/
def Instant.IsWhole (t : Instant) : Prop :=
  t.nano % 1000000 = 0

namespace Alarm

variable {a : Alarm}

/-- The run has an end. -/
def HasEnd (a : Alarm) : Prop :=
  ∃ finish, a.endTime = .ok finish

/-- The run has ended by this time. -/
def EndedBy (now : Instant) (a : Alarm) : Prop :=
  ∃ finish, a.endTime = .ok finish ∧ finish ≤ now

/-- The end is the start plus the duration. -/
theorem endTime_eq_ok_iff {finish : Instant} :
    a.endTime = .ok finish ↔
      a.durationMs ≠ Int64.minValue ∧ a.start.add ⟨a.durationMs.toInt * 1000000⟩ = .ok finish := by
  simp only [endTime, bind, Except.bind]
  cases h : Span.ofMillis a.durationMs with
  | error e =>
    refine iff_of_false (by simp) fun hmin => ?_
    exact absurd (h.symm.trans (Span.ofMillis_eq_ok_iff.mpr ⟨hmin.1, rfl⟩)) (by simp)
  | ok d =>
    obtain ⟨hmin, rfl⟩ := Span.ofMillis_eq_ok_iff.mp h
    exact (and_iff_right hmin).symm

/-- **Away from leap seconds there is an end inside the range**, except for the least duration. -/
theorem hasEnd_iff (h : a.start.isLeap = false) :
    a.HasEnd ↔ a.durationMs ≠ Int64.minValue ∧
      Instant.firstNanos ≤ a.start.nanos + a.durationMs.toInt * 1000000 ∧
        a.start.nanos + a.durationMs.toInt * 1000000 ≤ Instant.lastNanos := by
  rw [HasEnd, ← Instant.exists_add_eq_ok_iff h (d := ⟨a.durationMs.toInt * 1000000⟩)]
  simp only [endTime_eq_ok_iff, exists_and_left]

/-- A run that has ended has an end. -/
theorem EndedBy.hasEnd {now : Instant} (h : a.EndedBy now) : a.HasEnd := by
  obtain ⟨finish, hfinish, -⟩ := h
  exact ⟨finish, hfinish⟩

/-- The alarm starts outside leap seconds and lasts some time. -/
def Lasts (a : Alarm) : Prop :=
  a.start.isLeap = false ∧ 0 < a.durationMs.toInt

instance : DecidablePred Lasts :=
  fun _ => inferInstanceAs (Decidable (_ ∧ _))

/-- An end is as many nanoseconds after the start as the run lasts. -/
theorem nanos_of_endTime {finish : Instant} (hleap : a.start.isLeap = false)
    (h : a.endTime = .ok finish) :
    finish.isLeap = false ∧ finish.nanos = a.start.nanos + a.durationMs.toInt * 1000000 :=
  (Instant.add_eq_ok_iff hleap).mp (endTime_eq_ok_iff.mp h).2

/-- A run that lasts some time ends after its start. -/
theorem Lasts.start_lt {finish : Instant} (h : a.Lasts) (hend : a.endTime = .ok finish) :
    a.start < finish := by
  obtain ⟨hleap, hpos⟩ := h
  obtain ⟨hfinish, hnanos⟩ := nanos_of_endTime hleap hend
  rw [Instant.lt_iff_nanos_lt hleap hfinish]
  omega

/-! ### Kept in a row -/

/-- The milliseconds of every instant fit a word, also those of a leap second. -/
theorem toInt_startMs_toRow (a : Alarm) : a.toRow.startMs.toInt = a.start.millis := by
  have hfirst := a.start.first_le
  have hlast := a.start.le_last
  have hnano := a.start.nano_lt
  simp only [Instant.firstSecond_eq, Instant.lastSecond_eq] at hfirst hlast
  rw [toRow, Instant.millis, Instant.nanos, Instant.perSecond]
  exact Int64.toInt_ofInt_of_le (by omega) (by omega)

/-- The start that comes back from a row is that of the same millisecond, if there is one. -/
theorem start_stored (a : Alarm) :
    a.stored.start = (Instant.ofMillis? a.start.millis).getD .epoch := by
  rw [stored, Row.toAlarm, toInt_startMs_toRow]

/-- A row keeps the milliseconds of the start. -/
theorem nanos_start_stored (h : a.start.isLeap = false) :
    a.stored.start.isLeap = false ∧ a.stored.start.nanos = a.start.nanos / 1000000 * 1000000 := by
  have hfirst := a.start.firstNanos_le_nanos
  have hlast := Instant.nanos_le_lastNanos h
  have hrange : Instant.firstNanos ≤ a.start.millis * 1000000 ∧
      a.start.millis * 1000000 ≤ Instant.lastNanos := by
    simp only [Instant.firstNanos, Instant.lastNanos, Instant.firstSecond_eq,
      Instant.lastSecond_eq, Instant.perSecond] at hfirst hlast ⊢
    rw [Instant.millis]
    omega
  obtain ⟨t, ht⟩ := (Instant.exists_ofNanos?_eq_some_iff _).mpr hrange
  rw [start_stored, Instant.ofMillis?, ht, Option.getD_some]
  exact Instant.nanos_of_ofNanos? ht

/-- A row keeps an alarm as it is whose start is a whole number of milliseconds. -/
theorem stored_of_isWhole (h : a.start.IsWhole) (hleap : a.start.isLeap = false) :
    a.stored = a := by
  obtain ⟨hleap', hnanos⟩ := nanos_start_stored hleap
  have heq : a.stored.start.nanos = a.start.nanos := by
    simp only [Instant.IsWhole] at h
    simp only [Instant.nanos, Instant.perSecond] at hnanos ⊢
    omega
  have hstart : a.stored.start = a.start := by
    have hsome := Instant.ofNanos?_nanos hleap'
    rw [heq, Instant.ofNanos?_nanos hleap] at hsome
    exact (Option.some.inj hsome).symm
  exact congrArg (fun start => { a with start }) hstart

/-- A row does not put off the start. -/
theorem start_stored_le (h : a.start.isLeap = false) : a.stored.start ≤ a.start := by
  obtain ⟨hleap, hnanos⟩ := nanos_start_stored h
  rw [Instant.le_iff_nanos_le hleap h, hnanos]
  omega

/-- A run that lasts some time still does so in its row. -/
theorem Lasts.stored (h : a.Lasts) : a.stored.Lasts :=
  ⟨(nanos_start_stored h.1).1, h.2⟩

/-- A run that lasts some time ends after its start by its row too, since it lasts at least one
millisecond. -/
theorem Lasts.start_lt_stored {finish : Instant} (h : a.Lasts)
    (hend : a.stored.endTime = .ok finish) : a.start < finish := by
  obtain ⟨hleap, hpos⟩ := h
  obtain ⟨hleap', hstored⟩ := nanos_start_stored hleap
  obtain ⟨hfinish, hnanos⟩ := nanos_of_endTime hleap' hend
  rw [show a.stored.durationMs = a.durationMs from rfl] at hnanos
  rw [Instant.lt_iff_nanos_lt hleap hfinish]
  omega

/-- A run that lasts no negative time and has an end still has one in its row. -/
theorem HasEnd.stored (h : a.HasEnd) (hleap : a.start.isLeap = false)
    (hnonneg : 0 ≤ a.durationMs.toInt) : a.stored.HasEnd := by
  obtain ⟨hleap', hnanos⟩ := nanos_start_stored hleap
  have hfirst := a.stored.start.firstNanos_le_nanos
  obtain ⟨hmin, -, hlast⟩ := (hasEnd_iff hleap).mp h
  refine (hasEnd_iff hleap').mpr ⟨hmin, ?_⟩
  rw [show a.stored.durationMs = a.durationMs from rfl]
  omega

/-- A lead of whole milliseconds that fits still does so in the row. -/
theorem LeadFits.stored {lead : Span} (h : a.LeadFits lead) (hleap : a.start.isLeap = false)
    {ms : Int} (hlead : lead.nanos = ms * 1000000) : a.stored.LeadFits lead := by
  obtain ⟨-, hnanos⟩ := nanos_start_stored hleap
  simp only [LeadFits, Instant.firstNanos, Instant.firstSecond_eq, Instant.perSecond] at h ⊢
  omega

end Alarm

end Household
