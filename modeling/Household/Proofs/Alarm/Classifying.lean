import Household.Proofs.Alarm.Handling
import Household.Proofs.Alarm.Rearming
import Household.Proofs.Schedule.Overview

/-!
# The Overview and the Alarm of a Run

How far a run has got is asked in several places: for the line of the overview, for the notice of
its alarm, and when the timers are set after a restart. The overview looks at the run itself, the
others look at the alarm that is made of it and kept in a database. All of them compare the clock
with the start and the end, and at both of these moments they give the same answer, also when the
run lasts no time at all.

## Main results

* `DeviceState.ofRun_eq_scheduled_iff`, `ofRun_eq_active_iff`, `ofRun_eq_inactive_iff`: the
  overview.
* `Firing.exists_getReady_iff`, `Firing.forAlarm_eq_startNow_iff`: the notice.
* `Alarm.endedBy_ofRun_iff`, `Alarm.rearmsAt_ofRun`, `Alarm.max_eq_now_of_active`: the timer.
* `classified_alike`: all of them for an alarm that is read from a database.
-/

namespace Household

variable {d : Device} {t : Task} {e : Event} {now finish due ahead : Instant} {lead : Span}

/-! ### The overview -/

namespace DeviceState

/-- A run is scheduled ahead of its start. -/
theorem ofRun_eq_scheduled_iff :
    ofRun (some ⟨t, some e⟩) now = .ok .scheduled ↔ now < e.start := by
  rw [ofRun_eq_ok_iff]
  constructor
  · rintro (⟨hlt, -⟩ | ⟨-, finish, -, hstate⟩)
    · exact hlt
    · split at hstate <;> cases hstate
  · exact fun hlt => .inl ⟨hlt, rfl⟩

/-- A run is active from its start on, up to its end. -/
theorem ofRun_eq_active_iff :
    ofRun (some ⟨t, some e⟩) now = .ok .active ↔
      e.start ≤ now ∧ ∃ finish, (⟨t, some e⟩ : TaskEvent).endTime = .ok (some finish) ∧
        now < finish := by
  rw [ofRun_eq_ok_iff]
  simp

/-- A run is inactive from its end on. -/
theorem ofRun_eq_inactive_iff :
    ofRun (some ⟨t, some e⟩) now = .ok .inactive ↔
      e.start ≤ now ∧ ∃ finish, (⟨t, some e⟩ : TaskEvent).endTime = .ok (some finish) ∧
        finish ≤ now := by
  rw [ofRun_eq_ok_iff]
  simp

end DeviceState

/-! ### The notice -/

namespace Firing

variable {a : Alarm}

/-- An alarm says to get ready ahead of its start. -/
theorem exists_getReady_iff :
    (∃ name minutes, Notice.forAlarm a now = .ok (.getReady name minutes)) ↔ now < a.start := by
  simp [forAlarm_eq_ok_iff]

/-- An alarm says to start, and until when, from its start on. -/
theorem forAlarm_eq_startNow_iff {name : String} {endsAt : Instant} :
    Notice.forAlarm a now = .ok (.startNow name endsAt) ↔
      a.start ≤ now ∧ a.deviceName = name ∧ a.endTime = .ok endsAt := by
  rw [forAlarm_eq_ok_iff]
  constructor
  · rintro (⟨-, hnotice⟩ | ⟨hle, finish, hend, hnotice⟩)
    · cases hnotice
    · obtain ⟨rfl, rfl⟩ := Notice.startNow.inj hnotice
      exact ⟨hle, rfl, hend⟩
  · rintro ⟨hle, rfl, hend⟩
    exact .inr ⟨hle, endsAt, hend, rfl⟩

end Firing

/-! ### The timer -/

namespace Alarm

/-- An alarm ends with its run. -/
theorem endTime_ofRun_eq_ok_iff :
    (Alarm.ofRun d t e).endTime = .ok finish ↔
      (⟨t, some e⟩ : TaskEvent).endTime = .ok (some finish) := by
  simp only [endTime, ofRun, TaskEvent.endTime, Task.duration, bind, Except.bind]
  cases Span.ofMillis t.durationMs with
  | error err => simp
  | ok span =>
    dsimp only
    cases e.start.add span <;> simp [pure, Except.pure]

/-- An alarm ends at its start plus the duration, if this is not negative. -/
theorem endTime_ofRun_of_add (hnonneg : 0 ≤ t.durationMs.toInt)
    (h : e.start.add ⟨t.durationMs.toInt * 1000000⟩ = .ok finish) :
    (Alarm.ofRun d t e).endTime = .ok finish := by
  have hmin : t.durationMs ≠ Int64.minValue := by
    intro hmin
    rw [hmin] at hnonneg
    exact absurd hnonneg (by decide)
  exact endTime_eq_ok_iff.mpr ⟨hmin, h⟩

/-- A run that lasts no negative time does not end before its start. -/
theorem start_le_of_endTime_ofRun (hnonneg : 0 ≤ t.durationMs.toInt)
    (hleap : e.start.isLeap = false) (h : (Alarm.ofRun d t e).endTime = .ok finish) :
    e.start ≤ finish := by
  obtain ⟨hleap', hnanos⟩ := nanos_of_endTime hleap h
  rw [Instant.le_iff_nanos_le hleap hleap', hnanos]
  exact Int.le_add_of_nonneg_right (Int.mul_nonneg hnonneg (by decide))

/-- The alarm of a run has ended exactly if the run is inactive. -/
theorem endedBy_ofRun_iff (hnonneg : 0 ≤ t.durationMs.toInt) (hleap : e.start.isLeap = false) :
    (Alarm.ofRun d t e).EndedBy now ↔
      DeviceState.ofRun (some ⟨t, some e⟩) now = .ok .inactive := by
  rw [DeviceState.ofRun_eq_inactive_iff]
  constructor
  · rintro ⟨finish, hend, hle⟩
    exact ⟨(start_le_of_endTime_ofRun hnonneg hleap hend).trans hle, finish,
      endTime_ofRun_eq_ok_iff.mp hend, hle⟩
  · rintro ⟨-, finish, hend, hle⟩
    exact ⟨finish, endTime_ofRun_eq_ok_iff.mpr hend, hle⟩

/-- The timer of a run that is not over is set ahead of its start, or for now if that is over. -/
theorem rearmsAt_ofRun (hnonneg : 0 ≤ t.durationMs.toInt) (hleap : e.start.isLeap = false)
    (hend : (Alarm.ofRun d t e).endTime = .ok finish) (hahead : e.start.sub lead = .ok ahead)
    (h : DeviceState.ofRun (some ⟨t, some e⟩) now ≠ .ok .inactive) :
    (Alarm.ofRun d t e).RearmsAt now lead (max now ahead) := by
  have hended : ¬ (Alarm.ofRun d t e).EndedBy now := mt (endedBy_ofRun_iff hnonneg hleap).mp h
  exact ⟨⟨finish, hend⟩, hended, firstFire_eq_ok_iff_max.mpr ⟨ahead, hahead, rfl⟩⟩

/-- For an active run the time ahead of its start is over. -/
theorem max_eq_now_of_active (hleap : e.start.isLeap = false) (hlead : 0 ≤ lead.nanos)
    (hahead : e.start.sub lead = .ok ahead)
    (h : DeviceState.ofRun (some ⟨t, some e⟩) now = .ok .active) : max now ahead = now := by
  have hle : e.start ≤ now := (DeviceState.ofRun_eq_active_iff.mp h).1
  exact max_eq_left ((Instant.le_of_sub_eq_ok hleap hlead hahead).trans hle)

end Alarm

/-! ### All answers -/

/-- The overview and the notice of an alarm say the same of a run. -/
structure ToldAlike (te : TaskEvent) (a : Alarm) (now : Instant) : Prop where
  /-- The overview has a state for the run, whatever the time. -/
  exists_state : ∃ s, DeviceState.ofRun (some te) now = .ok s
  /-- The alarm has a notice, whatever the time. -/
  exists_notice : ∃ notice, Notice.forAlarm a now = .ok notice
  scheduled_iff : DeviceState.ofRun (some te) now = .ok .scheduled ↔
    ∃ name minutes, Notice.forAlarm a now = .ok (.getReady name minutes)
  active_iff : DeviceState.ofRun (some te) now = .ok .active ↔
    ∃ name endsAt, Notice.forAlarm a now = .ok (.startNow name endsAt) ∧ now < endsAt
  /-- There is one end, and it is the one that the user is told. -/
  exists_finish : ∃ finish, te.endTime = .ok (some finish) ∧ a.endTime = .ok finish ∧
    ∀ name endsAt, Notice.forAlarm a now = .ok (.startNow name endsAt) → endsAt = finish

/-- What is told of the alarm of a run after a restart follows the overview; the run is due `ahead`
of its start. -/
structure RearmedAlike (te : TaskEvent) (id : Int64) (now : Instant) (lead : Span)
    (ahead : Instant) (told : List TimerCommand) : Prop where
  nil_iff : told = [] ↔ DeviceState.ofRun (some te) now = .ok .inactive
  active : DeviceState.ofRun (some te) now = .ok .active → 0 ≤ lead.nanos →
    told = [.schedule id now]
  scheduled : DeviceState.ofRun (some te) now = .ok .scheduled →
    told = [.schedule id (max now ahead)]

/-- The overview and the notice say the same of every run with an end. -/
theorem toldAlike_ofRun (hend : (Alarm.ofRun d t e).endTime = .ok finish) (now : Instant) :
    ToldAlike ⟨t, some e⟩ (.ofRun d t e) now where
  exists_state := by
    refine DeviceState.exists_ofRun_eq_ok_iff.mpr fun te hte e' he' _ => ?_
    obtain rfl := Option.some.inj hte
    exact ⟨finish, Alarm.endTime_ofRun_eq_ok_iff.mp hend⟩
  exists_notice := by
    rcases lt_or_ge now e.start with hlt | hle
    · exact ⟨_, Firing.forAlarm_eq_ok_iff.mpr (.inl ⟨hlt, rfl⟩)⟩
    · exact ⟨_, Firing.forAlarm_eq_ok_iff.mpr (.inr ⟨hle, finish, hend, rfl⟩)⟩
  scheduled_iff := by
    rw [DeviceState.ofRun_eq_scheduled_iff, Firing.exists_getReady_iff]
    rfl
  active_iff := by
    simp only [DeviceState.ofRun_eq_active_iff, Firing.forAlarm_eq_startNow_iff,
      ← Alarm.endTime_ofRun_eq_ok_iff (d := d)]
    constructor
    · rintro ⟨hle, endsAt, hends, hlt⟩
      exact ⟨_, endsAt, ⟨hle, rfl, hends⟩, hlt⟩
    · rintro ⟨name, endsAt, ⟨hle, -, hends⟩, hlt⟩
      exact ⟨hle, endsAt, hends, hlt⟩
  exists_finish := by
    refine ⟨finish, Alarm.endTime_ofRun_eq_ok_iff.mp hend, hend, fun name endsAt hnotice => ?_⟩
    obtain ⟨-, -, hends⟩ := Firing.forAlarm_eq_startNow_iff.mp hnotice
    exact Except.ok.inj (hends.symm.trans hend)

/-- Something is told of the alarm of a run after a restart, and it follows the overview. -/
theorem exists_rearm?_rearmedAlike (hnonneg : 0 ≤ t.durationMs.toInt)
    (hleap : e.start.isLeap = false) (hend : (Alarm.ofRun d t e).endTime = .ok finish)
    (hahead : e.start.sub lead = .ok ahead) (now : Instant) :
    ∃ told, (Alarm.ofRun d t e).rearm? now lead = some told ∧
      RearmedAlike ⟨t, some e⟩ e.id now lead ahead told := by
  by_cases hs : DeviceState.ofRun (some ⟨t, some e⟩) now = .ok .inactive
  · have hended : (Alarm.ofRun d t e).EndedBy now := (Alarm.endedBy_ofRun_iff hnonneg hleap).mpr hs
    refine ⟨[], Alarm.rearm?_eq_some_nil_iff.mpr hended, ⟨iff_of_true rfl hs, ?_, ?_⟩⟩
    · intro hactive
      cases hs.symm.trans hactive
    · intro hscheduled
      cases hs.symm.trans hscheduled
  · have harmed := Alarm.rearmsAt_ofRun (d := d) hnonneg hleap hend hahead hs
    refine ⟨_, Alarm.rearm?_eq_some_schedule_iff.mpr harmed,
      ⟨iff_of_false (by simp) hs, ?_, fun _ => rfl⟩⟩
    intro hactive hlead
    rw [Alarm.max_eq_now_of_active hleap hlead hahead hactive]
    rfl

/-- A database with nothing else holds an alarm as it comes back from its row. -/
theorem exists_insert_empty (a : Alarm) :
    ∃ store, (Store.database .empty).insert a = .ok store ∧
      store.load a.id = .ok (some a.stored) ∧ store.all = .ok [a.stored] := by
  refine ⟨.database { Database.empty with rows := Table.empty.insert a.id a.toRow }, rfl, ?_, rfl⟩
  rw [Store.load_eq_ok_iff]
  refine ⟨rfl, ?_⟩
  simp only [Store.alarms, Table.get?_map, Table.get?_insert, if_pos]
  rfl

/-- **The overview and the alarm of a run agree.** Whatever the time, the notice of the alarm as it
comes back from a database says the same as the overview. After a restart its timer is set as the
overview has it: in every store that holds the alarm, unless one of a lower id stalls, and so in a
database with nothing else. -/
theorem classified_alike (d : Device) (t : Task) (e : Event) (now : Instant) (lead : Span)
    {finish ahead : Instant} (hnonneg : 0 ≤ t.durationMs.toInt) (hleap : e.start.isLeap = false)
    (hwhole : e.start.IsWhole) (hfinish : e.start.add ⟨t.durationMs.toInt * 1000000⟩ = .ok finish)
    (hahead : e.start.sub lead = .ok ahead) :
    let te : TaskEvent := ⟨t, some e⟩
    let a := (Alarm.ofRun d t e).stored
    ToldAlike te a now ∧
      (∃ store, (Store.database .empty).insert (.ofRun d t e) = .ok store ∧
        store.load e.id = .ok (some a) ∧
        RearmedAlike te e.id now lead ahead (rearm now lead store).1) ∧
      ∀ store : Store, store.Keyed → store.load e.id = .ok (some a) →
        (∀ b, b.id < e.id → store.load b.id = .ok (some b) → ¬ b.Stalls now lead) →
          RearmedAlike te e.id now lead ahead ((rearm now lead store).1.filter (·.id = e.id)) := by
  intro te a
  have hstored : a = .ofRun d t e := Alarm.stored_of_isWhole hwhole hleap
  have hend : (Alarm.ofRun d t e).endTime = .ok finish :=
    Alarm.endTime_ofRun_of_add hnonneg hfinish
  obtain ⟨told, htold, halike⟩ := exists_rearm?_rearmedAlike hnonneg hleap hend hahead now
  rw [hstored]
  refine ⟨toldAlike_ofRun hend now, ?_, fun store hk hload hall => ?_⟩
  · obtain ⟨store, hstore, hload, hall⟩ := exists_insert_empty (.ofRun d t e)
    refine ⟨store, hstore, hstored ▸ hload, ?_⟩
    rw [rearm, hall, show (Alarm.ofRun d t e).stored = .ofRun d t e from hstored]
    dsimp only
    rw [rearmAll_eq_outputs, Loop.outputs_cons_of_some htold, Loop.outputs, List.append_nil]
    exact halike
  · rw [filter_rearm_eq hk hload hall htold]
    exact halike

/-! ### A run that lasts no time -/

/-- A task that is done as soon as it starts. -/
def instantTask : Task :=
  ⟨12, 1, ⟨.epoch, History.oneOClock⟩, 0⟩

/-- The event that starts it at one o'clock. -/
def instantEvent : Event :=
  ⟨102, 12, History.oneOClock⟩

/-- One hour. -/
def oneHour : Span :=
  ⟨3600 * 1000000000⟩

/-- At midnight a run that lasts no time is scheduled for one o'clock, and its timer is set at once;
at one o'clock it is over, and its timer is not set, although its alarm says to start. -/
theorem classified_alike_instant :
    0 ≤ instantTask.durationMs.toInt ∧ instantEvent.start.isLeap = false ∧
      instantEvent.start.IsWhole ∧
      instantEvent.start.add ⟨instantTask.durationMs.toInt * 1000000⟩ = .ok History.oneOClock ∧
      instantEvent.start.sub oneHour = .ok .epoch ∧
      (∃ store, (Store.database .empty).insert (.ofRun History.washer instantTask instantEvent) =
          .ok store ∧
        (rearm .epoch oneHour store).1 = [.schedule 102 .epoch]) ∧
      (∃ store, (Store.database .empty).insert (.ofRun History.washer instantTask instantEvent) =
          .ok store ∧
        (rearm History.oneOClock oneHour store).1 = []) ∧
      ∃ name endsAt,
        Notice.forAlarm (Alarm.ofRun History.washer instantTask instantEvent).stored
            History.oneOClock = .ok (.startNow name endsAt) ∧ endsAt = History.oneOClock := by
  have hadd : instantEvent.start.add ⟨instantTask.durationMs.toInt * 1000000⟩ =
      .ok History.oneOClock := (Instant.add_eq_ok_iff rfl).mpr (by decide)
  have hsub : instantEvent.start.sub oneHour = .ok .epoch :=
    (Instant.sub_eq_ok_iff rfl).mpr (by decide)
  have hend : (Alarm.ofRun History.washer instantTask instantEvent).endTime =
      .ok History.oneOClock := Alarm.endTime_ofRun_of_add (by decide) hadd
  have halike (now : Instant) :=
    classified_alike History.washer instantTask instantEvent now oneHour (by decide) rfl rfl hadd hsub
  have hscheduled : DeviceState.ofRun (some ⟨instantTask, some instantEvent⟩) .epoch =
      .ok .scheduled := DeviceState.ofRun_eq_scheduled_iff.mpr (by decide)
  have hinactive : DeviceState.ofRun (some ⟨instantTask, some instantEvent⟩) History.oneOClock =
      .ok .inactive :=
    DeviceState.ofRun_eq_inactive_iff.mpr
      ⟨le_refl _, _, Alarm.endTime_ofRun_eq_ok_iff.mp hend, le_refl _⟩
  refine ⟨by decide, rfl, rfl, hadd, hsub, ?_, ?_, ?_⟩
  · obtain ⟨store, hstore, -, htold⟩ := (halike .epoch).2.1
    exact ⟨store, hstore, (htold.scheduled hscheduled).trans (by rw [max_self]; rfl)⟩
  · obtain ⟨store, hstore, -, htold⟩ := (halike History.oneOClock).2.1
    exact ⟨store, hstore, htold.nil_iff.mpr hinactive⟩
  · have hstored : (Alarm.ofRun History.washer instantTask instantEvent).stored =
        .ofRun History.washer instantTask instantEvent := Alarm.stored_of_isWhole rfl rfl
    rw [hstored]
    exact ⟨_, _, Firing.forAlarm_eq_startNow_iff.mpr ⟨le_refl _, rfl, hend⟩, rfl⟩

end Household
