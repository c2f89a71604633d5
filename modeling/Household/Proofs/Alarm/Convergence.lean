import Household.Proofs.Alarm.Passing
import Household.Proofs.Schedule.Running
import Household.Remote.Served

/-!
# Passes Bring Table and Timers in Line

After a pass that got through, the stored alarms are those of the served runs, each once; the timers
were told of exactly what has changed; and the next pass finds nothing to do.

The path from the served lists to the stored rows goes through the choice of one event for each
task, the filing of tasks under devices, a diff by id, and rows that keep whole milliseconds. What
each of them keeps and drops is said in `IsRun`, `mem_alarmsOf_join_iff` and
`Store.get?_written_reconcile`; the main result puts these together.

## Main results

* `Store.get?_written_reconcile`: a committed diff leaves exactly the listed ids, the stored ones
  among them as they were.
* `Pass.exists_inLine`: a pass brings table and timers in line, unless the store fails.
-/

namespace Household

/-! ### The listed alarms of served lists -/

namespace Diff

variable {devices : List Device} {tasks : List Task} {events : List Event}

/-- The listed alarms are those of the runs of the served lists. -/
theorem mem_alarmsOf_join_iff (hd : (devices.map (·.id)).Nodup) (ht : (tasks.map (·.id)).Nodup)
    (he : (events.map (·.id)).Nodup) {a : Alarm} :
    a ∈ alarmsOf (History.join devices tasks events) ↔
      ∃ d t e, History.IsRun devices tasks events d t e ∧ a = Alarm.ofRun d t e := by
  simp only [mem_alarmsOf_iff, History.mem_join_iff hd ht he]

/-- The listed ids are those of the events that make runs. -/
theorem mem_map_alarmsOf_join_iff (hd : (devices.map (·.id)).Nodup)
    (ht : (tasks.map (·.id)).Nodup) (he : (events.map (·.id)).Nodup) {k : Int64} :
    k ∈ (alarmsOf (History.join devices tasks events)).map (·.id) ↔
      ∃ d t e, History.IsRun devices tasks events d t e ∧ e.id = k := by
  simp only [List.mem_map, mem_alarmsOf_join_iff hd ht he]
  constructor
  · rintro ⟨_, ⟨d, t, e, hrun, rfl⟩, rfl⟩
    exact ⟨d, t, e, hrun, rfl⟩
  · rintro ⟨d, t, e, hrun, rfl⟩
    exact ⟨_, ⟨d, t, e, hrun, rfl⟩, rfl⟩

end Diff

/-- The event of a run determines its task and its device, when no id is repeated. -/
theorem History.IsRun.eq_of_id_eq {devices : List Device} {tasks : List Task} {events : List Event}
    (hd : (devices.map (·.id)).Nodup) (ht : (tasks.map (·.id)).Nodup)
    (he : (events.map (·.id)).Nodup) {d d' : Device} {t t' : Task} {e e' : Event}
    (h : IsRun devices tasks events d t e) (h' : IsRun devices tasks events d' t' e')
    (hid : e.id = e'.id) : d = d' ∧ t = t' ∧ e = e' := by
  obtain rfl : e = e' := List.inj_on_of_nodup_map he h.event_mem h'.event_mem hid
  obtain rfl : t = t' :=
    List.inj_on_of_nodup_map ht h.task_mem h'.task_mem (h.task_id.symm.trans h'.task_id)
  obtain rfl : d = d' :=
    List.inj_on_of_nodup_map hd h.device_mem h'.device_mem (h.device_id.symm.trans h'.device_id)
  exact ⟨rfl, rfl, rfl⟩

/-! ### What a committed diff leaves behind -/

namespace Store

variable {s : Store} {deviceTasks : List DeviceTask} {stored : List Alarm}

/-- **A committed diff leaves exactly the listed ids.** Those that were stored keep their alarms,
the others get the first alarm listed under them. -/
theorem get?_written_reconcile (hk : s.Keyed) (hall : s.all = .ok stored) (k : Int64) :
    (s.written (Diff.reconcile deviceTasks stored)).alarms.get? k =
      if k ∈ (Diff.alarmsOf deviceTasks).map (·.id) then
        (s.alarms.get? k).or (((Diff.alarmsOf deviceTasks).find? (·.id = k)).map s.keep)
      else none := by
  obtain ⟨-, rfl⟩ := all_eq_ok_iff.mp hall
  have hstored : k ∈ s.alarms.values.map (·.id) ↔ ∃ a, s.alarms.get? k = some a :=
    hk.alarms.mem_map_values_iff
  have hdelete : k ∈ (Diff.reconcile deviceTasks s.alarms.values).toDelete.map (·.id) ↔
      k ∈ s.alarms.values.map (·.id) ∧ k ∉ (Diff.alarmsOf deviceTasks).map (·.id) :=
    Diff.mem_map_toDelete_iff
  rw [get?_alarms_written]
  by_cases hl : k ∈ (Diff.alarmsOf deviceTasks).map (·.id)
  · rw [if_pos hl, if_neg fun h => (hdelete.mp h).2 hl]
    cases hs : s.alarms.get? k with
    | some a =>
      have hnot : k ∉ (Diff.reconcile deviceTasks s.alarms.values).toInsert.map (·.id) :=
        fun h => (Diff.mem_map_toInsert_iff.mp h).2 (hstored.mpr ⟨a, hs⟩)
      rw [Diff.find?_reverse_toInsert_eq_none hnot]
      rfl
    | none =>
      have hnot : k ∉ s.alarms.values.map (·.id) := by
        rw [hstored, hs]
        simp
      obtain ⟨a, ha, rfl⟩ := List.mem_map.mp (Diff.mem_map_toInsert_iff.mpr ⟨hl, hnot⟩)
      rw [Diff.find?_reverse_toInsert_eq_some ha, (Diff.mem_toInsert_iff.mp ha).1]
      simp
  · rw [if_neg hl]
    by_cases hs : k ∈ s.alarms.values.map (·.id)
    · rw [if_pos (hdelete.mpr ⟨hs, hl⟩)]
    · have hnot : k ∉ (Diff.reconcile deviceTasks s.alarms.values).toInsert.map (·.id) :=
        fun h => hl (Diff.mem_map_toInsert_iff.mp h).1
      have hget : s.alarms.get? k = none := by
        rw [hstored, not_exists] at hs
        exact Option.eq_none_iff_forall_ne_some.mpr hs
      rw [if_neg fun h => hs (hdelete.mp h).1, Diff.find?_reverse_toInsert_eq_none hnot, hget]
      rfl

/-- After a diff against any list of alarms the stored ids are the listed ones, if the ids of the
list were stored. -/
theorem mem_map_values_written_iff_of_ids (hk : s.Keyed)
    (hids : ∀ k, k ∈ s.alarms.values.map (·.id) ↔ k ∈ stored.map (·.id)) {k : Int64} :
    k ∈ (s.written (Diff.reconcile deviceTasks stored)).alarms.values.map (·.id) ↔
      k ∈ (Diff.alarmsOf deviceTasks).map (·.id) := by
  have hstored := (hk.alarms.mem_map_values_iff (k := k)).symm.trans (hids k)
  rw [(hk.written _).alarms.mem_map_values_iff, get?_alarms_written]
  by_cases hdel : k ∈ (Diff.reconcile deviceTasks stored).toDelete.map (·.id)
  · rw [if_pos hdel]
    exact iff_of_false (by simp) (Diff.mem_map_toDelete_iff.mp hdel).2
  · rw [if_neg hdel]
    by_cases hins : k ∈ (Diff.reconcile deviceTasks stored).toInsert.map (·.id)
    · obtain ⟨a, ha, rfl⟩ := List.mem_map.mp hins
      rw [Diff.find?_reverse_toInsert_eq_some ha]
      exact iff_of_true ⟨s.keep a, rfl⟩ (Diff.mem_map_toInsert_iff.mp hins).1
    · -- An id that is neither inserted nor deleted is listed exactly if it is stored.
      rw [Diff.find?_reverse_toInsert_eq_none hins, Option.map_none, Option.none_or, hstored]
      rw [Diff.mem_map_toDelete_iff] at hdel
      rw [Diff.mem_map_toInsert_iff] at hins
      tauto

/-- After a committed diff the stored ids are the listed ones. -/
theorem mem_map_values_written_reconcile_iff (hk : s.Keyed) (hall : s.all = .ok stored)
    {k : Int64} :
    k ∈ (s.written (Diff.reconcile deviceTasks stored)).alarms.values.map (·.id) ↔
      k ∈ (Diff.alarmsOf deviceTasks).map (·.id) :=
  mem_map_values_written_iff_of_ids hk fun k => by rw [(all_eq_ok_iff.mp hall).2]

/-- What a committed diff adds is kept of a listed alarm. -/
theorem exists_keep_of_mem_written_reconcile (hk : s.Keyed) (hall : s.all = .ok stored) {a : Alarm}
    (ha : a ∈ (s.written (Diff.reconcile deviceTasks stored)).alarms.values)
    (hnot : a.id ∉ stored.map (·.id)) : ∃ b ∈ Diff.alarmsOf deviceTasks, a = s.keep b := by
  rw [(hk.written _).alarms.mem_values_iff, get?_written_reconcile hk hall] at ha
  have hnone : s.alarms.get? a.id = none := by
    rw [← (all_eq_ok_iff.mp hall).2, hk.alarms.mem_map_values_iff, not_exists] at hnot
    exact Option.eq_none_iff_forall_ne_some.mpr hnot
  rw [hnone, Option.none_or] at ha
  split at ha
  · obtain ⟨b, hb, rfl⟩ := Option.map_eq_some_iff.mp ha
    exact ⟨b, List.mem_of_find?_eq_some hb, rfl⟩
  · exact absurd ha (by simp)

/-- A committed diff leaves an alarm that was stored as it was. -/
theorem mem_of_mem_written_reconcile (hk : s.Keyed) (hall : s.all = .ok stored) {a : Alarm}
    (ha : a ∈ (s.written (Diff.reconcile deviceTasks stored)).alarms.values)
    (hin : a.id ∈ stored.map (·.id)) : a ∈ stored := by
  rw [(hk.written _).alarms.mem_values_iff, get?_written_reconcile hk hall] at ha
  obtain ⟨-, rfl⟩ := all_eq_ok_iff.mp hall
  obtain ⟨b, hb⟩ := hk.alarms.mem_map_values_iff.mp hin
  rw [hb, Option.some_or] at ha
  split at ha
  · obtain rfl := Option.some.inj ha
    exact hk.alarms.mem_values_iff.mpr hb
  · exact absurd ha (by simp)

end Store

/-! ### Table and timers in line with the served runs -/

namespace Pass

/-- A pass over histories that were committed already does nothing. -/
theorem run_written {view : View} {store : Store} (hk : store.Keyed)
    {deviceTasks : List DeviceTask} (hfetched : view.fetched = .ok deviceTasks)
    {stored : List Alarm} (hall : store.all = .ok stored) :
    run view (store.written (Diff.reconcile deviceTasks stored)) =
      ⟨.ok ⟨[], []⟩, store.written (Diff.reconcile deviceTasks stored), []⟩ := by
  have hopen : (store.written (Diff.reconcile deviceTasks stored)).IsOpen :=
    (Store.isOpen_written _ _).mpr (Store.all_eq_ok_iff.mp hall).1
  refine run_of_isEmpty hfetched (Store.all_eq_ok_iff.mpr ⟨hopen, rfl⟩) ?_
  exact Diff.isEmpty_reconcile_iff.mpr fun k =>
    Store.mem_map_values_written_reconcile_iff hk hall

/-- Table and timers are in line with the served runs: `after` is stored where `before` was, and
the scheduler was told the commands. -/
structure InLine (devices : List Device) (tasks : List Task) (events : List Event) (now : Instant)
    (lead : Span) (keep : Alarm → Alarm) (before after : List Alarm)
    (commands : List TimerCommand) : Prop where
  /-- No id is stored twice. -/
  ascending : (after.map (·.id)).Pairwise (· < ·)
  /-- The stored ids are those of the events that make runs. -/
  ids : ∀ id, id ∈ after.map (·.id) ↔
    ∃ d t e, History.IsRun devices tasks events d t e ∧ e.id = id
  /-- What was added is kept of the alarms of runs. -/
  added : ∀ a ∈ after, a.id ∉ before.map (·.id) →
    ∃ d t e, History.IsRun devices tasks events d t e ∧ a = keep (Alarm.ofRun d t e)
  /-- What was there already is as it was. -/
  unchanged : ∀ a ∈ after, a.id ∈ before.map (·.id) → a ∈ before
  /-- The timers set are those of the runs that were added. -/
  schedules : ∀ id due, .schedule id due ∈ commands ↔
    id ∉ before.map (·.id) ∧ ∃ d t e ahead, History.IsRun devices tasks events d t e ∧ e.id = id ∧
      e.start.sub lead = .ok ahead ∧ due = max now ahead
  /-- The timers cancelled are those of the alarms that were removed. -/
  cancels : ∀ id, .cancel id ∈ commands ↔ id ∈ before.map (·.id) ∧ id ∉ after.map (·.id)
  /-- No alarm gets two commands. -/
  once : (commands.map TimerCommand.id).Nodup

variable {devices : List Device} {tasks : List Task} {events : List Event}

/-- The timers that a diff sets are those of the runs that are not stored, where each of its alarms
has a due time. -/
theorem schedule_mem_carryOut_join_iff (hd : (devices.map (·.id)).Nodup)
    (ht : (tasks.map (·.id)).Nodup) (he : (events.map (·.id)).Nodup) {now : Instant} {lead : Span}
    {stored : List Alarm} {diff : Diff}
    (hdiff : diff = Diff.reconcile (History.join devices tasks events) stored)
    (hdue : ∀ a ∈ diff.toInsert, ∃ due, firstFire now a.start lead = .ok due) {id : Int64}
    {due : Instant} :
    .schedule id due ∈ (carryOut now lead diff.intents).1 ↔
      id ∉ stored.map (·.id) ∧ ∃ d t e ahead, History.IsRun devices tasks events d t e ∧
        e.id = id ∧ e.start.sub lead = .ok ahead ∧ due = max now ahead := by
  subst hdiff
  rw [schedule_mem_carryOut_iff Diff.pairwise_toInsert]
  simp only [firstFire_eq_ok_iff_max]
  constructor
  · rintro ⟨a, ha, -, rfl, ahead, hahead, hmax⟩
    obtain ⟨hfirst, hnot⟩ := Diff.mem_toInsert_iff.mp ha
    obtain ⟨d, t, e, hrun, rfl⟩ :=
      (Diff.mem_alarmsOf_join_iff hd ht he).mp (List.mem_of_find?_eq_some hfirst)
    exact ⟨hnot, d, t, e, ahead, hrun, rfl, hahead, hmax⟩
  · rintro ⟨hnot, d, t, e, ahead, hrun, rfl, hahead, hmax⟩
    have hlisted := (Diff.mem_map_alarmsOf_join_iff hd ht he).mpr ⟨d, t, e, hrun, rfl⟩
    obtain ⟨a, ha, hid⟩ := List.mem_map.mp (Diff.mem_map_toInsert_iff.mpr ⟨hlisted, hnot⟩)
    obtain ⟨d', t', e', hrun', rfl⟩ :=
      (Diff.mem_alarmsOf_join_iff hd ht he).mp (Diff.mem_alarmsOf_of_mem_toInsert ha)
    obtain ⟨rfl, rfl, rfl⟩ := hrun'.eq_of_id_eq hd ht he hrun hid
    refine ⟨_, ha, fun b hb _ => ?_, rfl, ahead, hahead, hmax⟩
    obtain ⟨due, hfire⟩ := hdue b hb
    exact ⟨due, firstFire_eq_ok_iff_max.mp hfire⟩

/-- A committed diff all of whose alarms have a due time brings table and timers in line. -/
theorem inLine_committed (hd : (devices.map (·.id)).Nodup) (ht : (tasks.map (·.id)).Nodup)
    (he : (events.map (·.id)).Nodup) {now : Instant} {lead : Span} {store : Store}
    (hk : store.Keyed) {stored : List Alarm} (hall : store.all = .ok stored) {diff : Diff}
    (hdiff : diff = Diff.reconcile (History.join devices tasks events) stored)
    (hdue : ∀ a ∈ diff.toInsert, ∃ due, firstFire now a.start lead = .ok due) :
    InLine devices tasks events now lead store.keep stored (store.written diff).alarms.values
      (carryOut now lead diff.intents).1 := by
  have hkeyed := (hk.written diff).alarms
  subst hdiff
  have hids : ∀ k, k ∈ (store.written (Diff.reconcile (History.join devices tasks events)
      stored)).alarms.values.map (·.id) ↔
        k ∈ (Diff.alarmsOf (History.join devices tasks events)).map (·.id) :=
    fun k => Store.mem_map_values_written_reconcile_iff hk hall
  refine ⟨hkeyed.pairwise_values, fun k => ?_, fun a ha hnot => ?_, fun a ha hin => ?_,
    fun k due => ?_, fun k => ?_, ?_⟩
  · rw [hids, Diff.mem_map_alarmsOf_join_iff hd ht he]
  · obtain ⟨b, hb, rfl⟩ := Store.exists_keep_of_mem_written_reconcile hk hall ha hnot
    obtain ⟨d, t, e, hrun, rfl⟩ := (Diff.mem_alarmsOf_join_iff hd ht he).mp hb
    exact ⟨d, t, e, hrun, rfl⟩
  · exact Store.mem_of_mem_written_reconcile hk hall ha hin
  · exact schedule_mem_carryOut_join_iff hd ht he rfl hdue
  · rw [cancel_mem_carryOut_iff, and_iff_right hdue, Diff.mem_map_toDelete_iff, hids]
  · exact nodup_map_id_carryOut hk hall _ now lead

/-- **A pass brings table and timers in line, unless the store fails.** Then nothing has changed;
else the stored alarms are those of the served runs, the scheduler was told of exactly what was
added and removed, and a further pass over the same lists does nothing, whenever it runs. -/
theorem exists_inLine (hd : (devices.map (·.id)).Nodup) (ht : (tasks.map (·.id)).Nodup)
    (he : (events.map (·.id)).Nodup) (now : Instant) (lead : Span)
    (hlead : ∀ d t e, History.IsRun devices tasks events d t e →
      ∃ ahead, e.start.sub lead = .ok ahead)
    {store : Store} (hk : store.Keyed) :
    let served : Served := ⟨.ok devices, .ok tasks, .ok events⟩
    let report := run ⟨served.histories, now, lead⟩ store
    (∃ e, report = ⟨.error (.store e), store, []⟩) ∨
      ∃ diff before after, report.result = .ok diff ∧ store.all = .ok before ∧
        report.store.all = .ok after ∧
        InLine devices tasks events now lead store.keep before after report.commands ∧
        ∀ now' lead',
          run ⟨served.histories, now', lead'⟩ report.store = ⟨.ok ⟨[], []⟩, report.store, []⟩ := by
  intro served report
  have hserved : served.histories = .ok (History.join devices tasks events) := rfl
  have hcases : Outcome ⟨served.histories, now, lead⟩ store report := outcome_run _ _
  generalize report = r at hcases
  cases hcases with
  | unserved hfetched => exact absurd (hserved.symm.trans hfetched) (by simp)
  | unstored _ _ => exact .inl ⟨_, rfl⟩
  | @committed deviceTasks stored store' hfetched hall happly =>
    obtain rfl := Except.ok.inj (hserved.symm.trans hfetched)
    have hdue : ∀ a ∈ (Diff.reconcile (History.join devices tasks events) stored).toInsert,
        ∃ due, firstFire now a.start lead = .ok due := by
      intro a ha
      obtain ⟨d, t, e, hrun, rfl⟩ :=
        (Diff.mem_alarmsOf_join_iff hd ht he).mp (Diff.mem_alarmsOf_of_mem_toInsert ha)
      exact exists_firstFire_eq_ok_iff.mpr (hlead d t e hrun)
    have hopen :
        (store.written (Diff.reconcile (History.join devices tasks events) stored)).IsOpen :=
      (Store.isOpen_written _ _).mpr (Store.all_eq_ok_iff.mp hall).1
    have hafter := Store.all_eq_ok_iff.mpr ⟨hopen, rfl⟩
    have hresult : (committed ⟨served.histories, now, lead⟩ store
        (Diff.reconcile (History.join devices tasks events) stored)).result =
          .ok (Diff.reconcile (History.join devices tasks events) stored) := by
      simp only [committed, carryOut_intents_eq_none_iff.mpr hdue]
    exact .inr ⟨_, stored, _, hresult, hall, hafter, inLine_committed hd ht he hk hall rfl hdue,
      fun now' lead' => run_written hk hserved hall⟩

/-! ### A household -/

/-- Noon of 15 January 2024. -/
def noon : Instant :=
  { Instant.epoch with
    second := 1705320000
    first_le := by decide
    le_last := by decide
    leap_last := by decide }

/-- One washer. -/
def laundryDevices : List Device := [⟨1, "Washer", .zero⟩]

/-- A task of the washer, and one of a device that is not served. -/
def laundryTasks : List Task :=
  [⟨10, 1, ⟨.epoch, noon⟩, 300000⟩, ⟨30, 3, ⟨.epoch, noon⟩, 60000⟩]

/-- Two events of the washer's task, one of the other task, and one of no task. -/
def laundryEvents : List Event :=
  [⟨100, 10, .epoch⟩, ⟨105, 10, noon⟩, ⟨300, 30, noon⟩, ⟨400, 40, noon⟩]

/-- The later event makes the washer's only run. -/
def laundryHistories : List DeviceTask :=
  [⟨⟨1, "Washer", .zero⟩, [⟨⟨10, 1, ⟨.epoch, noon⟩, 300000⟩, some ⟨105, 10, noon⟩⟩]⟩]

/-- The histories of the laundry. -/
theorem join_laundry :
    History.join laundryDevices laundryTasks laundryEvents = laundryHistories := by
  have hdevices : History.sortDevices laundryDevices = laundryDevices :=
    List.mergeSort_singleton _
  have htasks : History.sort [⟨⟨10, 1, ⟨.epoch, noon⟩, 300000⟩, some ⟨105, 10, noon⟩⟩] =
      [⟨⟨10, 1, ⟨.epoch, noon⟩, 300000⟩, some ⟨105, 10, noon⟩⟩] :=
    List.mergeSort_singleton _
  rw [History.join, hdevices]
  exact congrArg (fun l => [DeviceTask.mk ⟨1, "Washer", .zero⟩ l]) htasks

/-- A database with an alarm that no event is left for. -/
def laundryDatabase : Database :=
  { Database.empty with rows := Table.empty.insert 7 ⟨7, "Washer", 0, 300000⟩ }

/-- What a pass over the laundry sees ten minutes ahead of every start. -/
def laundryView (now : Instant) : View :=
  ⟨(⟨.ok laundryDevices, .ok laundryTasks, .ok laundryEvents⟩ : Served).histories, now,
    ⟨600 * 1000000000⟩⟩

/-- A pass over the laundry brings its table and its timers in line. -/
theorem exists_inLine_laundry :
    (laundryDevices.map (·.id)).Nodup ∧ (laundryTasks.map (·.id)).Nodup ∧
      (laundryEvents.map (·.id)).Nodup ∧
      (∀ d t e, History.IsRun laundryDevices laundryTasks laundryEvents d t e →
        ∃ ahead, e.start.sub ⟨600 * 1000000000⟩ = .ok ahead) ∧
      (Store.database laundryDatabase).Keyed ∧
      ∃ diff before after,
        (run (laundryView .epoch) (.database laundryDatabase)).result = .ok diff ∧
        (Store.database laundryDatabase).all = .ok before ∧
        (run (laundryView .epoch) (.database laundryDatabase)).store.all = .ok after ∧
        InLine laundryDevices laundryTasks laundryEvents .epoch ⟨600 * 1000000000⟩
          (Store.database laundryDatabase).keep before after
          (run (laundryView .epoch) (.database laundryDatabase)).commands ∧
        run (laundryView noon) (run (laundryView .epoch) (.database laundryDatabase)).store =
          ⟨.ok ⟨[], []⟩, (run (laundryView .epoch) (.database laundryDatabase)).store, []⟩ := by
  have hd : (laundryDevices.map (·.id)).Nodup := by decide
  have ht : (laundryTasks.map (·.id)).Nodup := by decide
  have he : (laundryEvents.map (·.id)).Nodup := by decide
  have hlead : ∀ d t e, History.IsRun laundryDevices laundryTasks laundryEvents d t e →
      ∃ ahead, e.start.sub ⟨600 * 1000000000⟩ = .ok ahead := by
    intro d t e hrun
    have hfirst : ∀ e ∈ laundryEvents, Instant.firstNanos ≤ e.start.nanos - 600 * 1000000000 := by
      decide
    exact (Instant.exists_sub_eq_ok_iff (by decide)).mpr (hfirst e hrun.event_mem)
  have hrows : Table.Keyed Row.id laundryDatabase.rows :=
    Table.Keyed.empty.insert (⟨7, "Washer", 0, 300000⟩ : Row)
  have hk : (Store.database laundryDatabase).Keyed := hrows
  refine ⟨hd, ht, he, hlead, hk, ?_⟩
  rcases exists_inLine hd ht he .epoch ⟨600 * 1000000000⟩ hlead hk with ⟨e, hfail⟩ | hdone
  · have hresult := congrArg Report.result hfail
    have hserved : (⟨.ok laundryDevices, .ok laundryTasks, .ok laundryEvents⟩ : Served).histories =
        .ok laundryHistories := congrArg Except.ok join_laundry
    rw [hserved] at hresult
    cases hresult
  · obtain ⟨diff, before, after, hresult, hbefore, hafter, hline, hagain⟩ := hdone
    exact ⟨diff, before, after, hresult, hbefore, hafter, hline, hagain noon _⟩

end Pass

end Household
