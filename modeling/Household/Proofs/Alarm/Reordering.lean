import Household.Proofs.Alarm.Convergence

/-!
# The Listed Order Does Not Matter to a Pass

The server may list devices, tasks and events in any order. A join is sensitive to it: devices of
one name and runs of one start come as they were listed, and of alarms with one id the first
counts. Where no id is repeated none of this gets through to the diff, since then an id alone tells
which alarm it is, and alarms are inserted by id.

## Main results

* `History.join_eq_of_perm_events`: the order of the events does not even matter to a join.
* `Pass.reconcile_and_run_eq_of_perm`: whatever the order, the diff is the same, and a pass does the
  same.
-/

namespace Household

/-! ### Events in another order -/

namespace History

variable {devices devices' : List Device} {tasks tasks' : List Task} {events events' : List Event}

/-- The same events are kept in any order, when no event id is repeated. -/
theorem eventsByTask_eq_of_perm (he : (events.map (·.id)).Nodup) (pe : events'.Perm events) :
    eventsByTask events' = eventsByTask events := by
  have he' : (events'.map (·.id)).Nodup := (pe.map _).nodup_iff.mpr he
  refine Table.ext_get? fun k => Option.ext fun e => ?_
  rw [get?_eventsByTask_eq_some_iff he', get?_eventsByTask_eq_some_iff he]
  simp only [pe.mem_iff]

/-- **Events may come in any order**, when no event id is repeated: the joined histories are the
same, runs of one start included. -/
theorem join_eq_of_perm_events (devices : List Device) (tasks : List Task)
    (he : (events.map (·.id)).Nodup) (pe : events'.Perm events) :
    join devices tasks events' = join devices tasks events := by
  rw [join, join, eventsByTask_eq_of_perm he pe]

/-- The same runs are served in any order. -/
theorem isRun_iff_of_perm (pd : devices'.Perm devices) (pt : tasks'.Perm tasks)
    (pe : events'.Perm events) {d : Device} {t : Task} {e : Event} :
    IsRun devices' tasks' events' d t e ↔ IsRun devices tasks events d t e := by
  constructor
  · rintro ⟨hd, ht, he, hdevice, htask, hmax⟩
    exact ⟨pd.mem_iff.mp hd, pt.mem_iff.mp ht, pe.mem_iff.mp he, hdevice, htask,
      fun f hf => hmax f (pe.mem_iff.mpr hf)⟩
  · rintro ⟨hd, ht, he, hdevice, htask, hmax⟩
    exact ⟨pd.mem_iff.mpr hd, pt.mem_iff.mpr ht, pe.mem_iff.mpr he, hdevice, htask,
      fun f hf => hmax f (pe.mem_iff.mp hf)⟩

end History

/-! ### Alarms in another order -/

namespace Diff

/-- The same ids lead to the same alarms in any order, when no two alarms share an id. -/
theorem live_congr {alarms alarms' : List Alarm} (hmem : ∀ a, a ∈ alarms' ↔ a ∈ alarms)
    (hid : ∀ a ∈ alarms, ∀ b ∈ alarms, a.id = b.id → a = b) : live alarms' = live alarms := by
  have hid' : ∀ a ∈ alarms', ∀ b ∈ alarms', a.id = b.id → a = b := fun a ha b hb =>
    hid a ((hmem a).mp ha) b ((hmem b).mp hb)
  refine Table.ext_get? fun k => Option.ext fun a => ?_
  rw [get?_live, get?_live, Table.find?_eq_some_iff_of_injOn hid',
    Table.find?_eq_some_iff_of_injOn hid, hmem]

/-- A diff depends on what the listed ids lead to, and on nothing else of the histories. -/
theorem reconcile_congr {deviceTasks deviceTasks' : List DeviceTask}
    (h : live (alarmsOf deviceTasks') = live (alarmsOf deviceTasks)) (stored : List Alarm) :
    reconcile deviceTasks' stored = reconcile deviceTasks stored := by
  simp only [reconcile, h]

end Diff

/-! ### Passes over another order -/

namespace Pass

/-- A pass depends on the diffs that its histories lead to. -/
theorem run_congr {deviceTasks deviceTasks' : List DeviceTask}
    (h : ∀ stored, Diff.reconcile deviceTasks' stored = Diff.reconcile deviceTasks stored)
    (now : Instant) (lead : Span) (store : Store) :
    run ⟨.ok deviceTasks', now, lead⟩ store = run ⟨.ok deviceTasks, now, lead⟩ store := by
  simp only [run, h]

/-- **Whatever the order of the served lists, the diff is the same and a pass does the same**, when
no id is repeated: it leaves the same table and gives the same commands in the same order. The order
of the events alone does not even matter to the histories. -/
theorem reconcile_and_run_eq_of_perm {devices devices' : List Device} {tasks tasks' : List Task}
    {events events' : List Event} (hd : (devices.map (·.id)).Nodup)
    (ht : (tasks.map (·.id)).Nodup) (he : (events.map (·.id)).Nodup)
    (pd : devices'.Perm devices) (pt : tasks'.Perm tasks) (pe : events'.Perm events) :
    (∀ stored, Diff.reconcile (History.join devices' tasks' events') stored =
      Diff.reconcile (History.join devices tasks events) stored) ∧
    (∀ now lead store,
      run ⟨(⟨.ok devices', .ok tasks', .ok events'⟩ : Served).histories, now, lead⟩ store =
        run ⟨(⟨.ok devices, .ok tasks, .ok events⟩ : Served).histories, now, lead⟩ store) ∧
    History.join devices tasks events' = History.join devices tasks events := by
  have hd' : (devices'.map (·.id)).Nodup := (pd.map _).nodup_iff.mpr hd
  have ht' : (tasks'.map (·.id)).Nodup := (pt.map _).nodup_iff.mpr ht
  have he' : (events'.map (·.id)).Nodup := (pe.map _).nodup_iff.mpr he
  have hmem : ∀ a, a ∈ Diff.alarmsOf (History.join devices' tasks' events') ↔
      a ∈ Diff.alarmsOf (History.join devices tasks events) := by
    intro a
    rw [Diff.mem_alarmsOf_join_iff hd' ht' he', Diff.mem_alarmsOf_join_iff hd ht he]
    simp only [History.isRun_iff_of_perm pd pt pe]
  have hid : ∀ a ∈ Diff.alarmsOf (History.join devices tasks events),
      ∀ b ∈ Diff.alarmsOf (History.join devices tasks events), a.id = b.id → a = b := by
    intro a ha b hb hab
    obtain ⟨d, t, e, hrun, rfl⟩ := (Diff.mem_alarmsOf_join_iff hd ht he).mp ha
    obtain ⟨d', t', e', hrun', rfl⟩ := (Diff.mem_alarmsOf_join_iff hd ht he).mp hb
    obtain ⟨rfl, rfl, rfl⟩ := hrun.eq_of_id_eq hd ht he hrun' hab
    rfl
  have hreconcile := Diff.reconcile_congr (Diff.live_congr hmem hid)
  exact ⟨hreconcile, fun now lead store => run_congr hreconcile now lead store,
    History.join_eq_of_perm_events devices tasks he pe⟩

/-! ### Two washers of one name -/

/-- Two devices that tie in the order by name. -/
def twinDevices : List Device :=
  [⟨1, "Washer", .zero⟩, ⟨2, "Washer", .zero⟩]

/-- Two tasks of the first one. -/
def twinTasks : List Task :=
  [⟨10, 1, ⟨.epoch, noon⟩, 300000⟩, ⟨11, 1, ⟨.epoch, noon⟩, 60000⟩]

/-- An event for each task; both start at noon, so that they tie in the history. -/
def twinEvents : List Event :=
  [⟨100, 10, noon⟩, ⟨101, 11, noon⟩]

/-- The twins may be listed the other way round. -/
theorem reconcile_and_run_eq_of_perm_twins :
    (twinDevices.map (·.id)).Nodup ∧ (twinTasks.map (·.id)).Nodup ∧
      (twinEvents.map (·.id)).Nodup ∧ twinDevices.reverse.Perm twinDevices ∧
      twinTasks.reverse.Perm twinTasks ∧ twinEvents.reverse.Perm twinEvents ∧
      (∀ stored, Diff.reconcile
          (History.join twinDevices.reverse twinTasks.reverse twinEvents.reverse) stored =
        Diff.reconcile (History.join twinDevices twinTasks twinEvents) stored) ∧
      (∀ now lead store,
        run ⟨(⟨.ok twinDevices.reverse, .ok twinTasks.reverse, .ok twinEvents.reverse⟩ :
            Served).histories, now, lead⟩ store =
          run ⟨(⟨.ok twinDevices, .ok twinTasks, .ok twinEvents⟩ : Served).histories, now, lead⟩
            store) ∧
      History.join twinDevices twinTasks twinEvents.reverse =
        History.join twinDevices twinTasks twinEvents := by
  have hd : (twinDevices.map (·.id)).Nodup := by decide
  have ht : (twinTasks.map (·.id)).Nodup := by decide
  have he : (twinEvents.map (·.id)).Nodup := by decide
  have pd := List.reverse_perm twinDevices
  have pt := List.reverse_perm twinTasks
  have pe := List.reverse_perm twinEvents
  exact ⟨hd, ht, he, pd, pt, pe, reconcile_and_run_eq_of_perm hd ht he pd pt pe⟩

end Pass

end Household
