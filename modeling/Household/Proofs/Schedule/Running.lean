import Household.Proofs.Table
import Household.Schedule.History
import Mathlib.Data.List.Nodup

/-!
# The Runs of Joined Histories

What the histories of devices hold can be said without the order in which tables are filled and
emptied again. A served event makes a run of a device when its task is served, the task's device is
served, and no served event of that task has a higher id.

## Main results

* `get?_eventsByTask_eq_some_iff`: the event kept for a task is the one with the highest id.
* `attach_eq_map`, `getD_get?_byDevice`, `collect_eq_map`: what the stages of a join make of lists
  in which no id is repeated.
* `mem_join_iff`: the histories hold exactly the runs of the served lists.
-/

namespace Household.History

/-! ### The event kept for a task -/

/-- The event that stays when another one for the same task is met. -/
def outrank (kept : Option Event) (e : Event) : Option Event :=
  match kept with
  | some old => if old.id < e.id then some e else some old
  | none => some e

/-- Keeping an event concerns its own task only. -/
theorem get?_keep (kept : Table Event) (e : Event) (k : Int64) :
    (keep kept e).get? k = if e.taskId = k then outrank (kept.get? k) e else kept.get? k := by
  by_cases hk : e.taskId = k
  · subst hk
    rw [if_pos rfl, keep]
    cases h : kept.get? e.taskId with
    | none => simp [outrank]
    | some old => by_cases hlt : old.id < e.id <;> simp [outrank, hlt, h]
  · rw [if_neg hk, keep]
    cases kept.get? e.taskId with
    | none => simp [hk]
    | some old => by_cases hlt : old.id < e.id <;> simp [hlt, hk]

/-- The event kept for a task is found among the events of that task alone. -/
theorem get?_foldl_keep (events : List Event) (kept : Table Event) (k : Int64) :
    (events.foldl keep kept).get? k =
      (events.filter (·.taskId = k)).foldl outrank (kept.get? k) := by
  induction events generalizing kept with
  | nil => rfl
  | cons e events ih =>
    rw [List.foldl_cons, ih, get?_keep]
    by_cases hk : e.taskId = k <;> simp [hk]

/-- The event that stays at the end was met, and none that was met has a higher id. -/
theorem foldl_outrank_eq_some {l : List Event} {kept : Option Event} {e : Event}
    (h : l.foldl outrank kept = some e) :
    (kept = some e ∨ e ∈ l) ∧ (∀ old ∈ kept, old.id ≤ e.id) ∧ ∀ e' ∈ l, e'.id ≤ e.id := by
  induction l generalizing kept with
  | nil =>
    obtain rfl : kept = some e := h
    refine ⟨.inl rfl, ?_, by simp⟩
    rintro old ⟨⟩
    exact Int64.le_refl _
  | cons x l ih =>
    obtain ⟨hmem, hkept, hl⟩ := ih h
    -- Both what was kept and `x` lose at most to the one of them that stays.
    cases kept with
    | none =>
      have hx : x.id ≤ e.id := hkept x rfl
      refine ⟨.inr ?_, by simp, List.forall_mem_cons.mpr ⟨hx, hl⟩⟩
      rcases hmem with hmem | hmem
      · exact List.mem_cons.mpr (.inl (Option.some.inj hmem).symm)
      · exact List.mem_cons_of_mem _ hmem
    | some old =>
      by_cases hlt : old.id < x.id
      · have hstay : outrank (some old) x = some x := by simp [outrank, hlt]
        rw [hstay] at hmem hkept
        have hx : x.id ≤ e.id := hkept x rfl
        refine ⟨.inr ?_, ?_, List.forall_mem_cons.mpr ⟨hx, hl⟩⟩
        · rcases hmem with hmem | hmem
          · exact List.mem_cons.mpr (.inl (Option.some.inj hmem).symm)
          · exact List.mem_cons_of_mem _ hmem
        · rintro _ ⟨⟩
          exact Int64.le_trans (Int64.le_of_lt hlt) hx
      · have hstay : outrank (some old) x = some old := by simp [outrank, hlt]
        rw [hstay] at hmem hkept
        have hold : old.id ≤ e.id := hkept old rfl
        have hx : x.id ≤ e.id := Int64.le_trans (Int64.not_lt.mp hlt) hold
        refine ⟨hmem.imp_right (List.mem_cons_of_mem _), hkept, List.forall_mem_cons.mpr ⟨hx, hl⟩⟩

/-- As soon as an event has been met, one stays. -/
theorem exists_foldl_outrank (l : List Event) (kept : Option Event)
    (h : kept ≠ none ∨ l ≠ []) : ∃ e, l.foldl outrank kept = some e := by
  induction l generalizing kept with
  | nil => exact Option.ne_none_iff_exists'.mp (h.resolve_right (by simp))
  | cons x l ih =>
    refine ih _ (.inl ?_)
    cases kept with
    | none => simp [outrank]
    | some old => by_cases hlt : old.id < x.id <;> simp [outrank, hlt]

/-- The event kept for a task belongs to it, and no other event of the task has a higher id. -/
theorem eventsByTask_spec {events : List Event} {k : Int64} {e : Event}
    (h : (eventsByTask events).get? k = some e) :
    e ∈ events ∧ e.taskId = k ∧ ∀ e' ∈ events, e'.taskId = k → e'.id ≤ e.id := by
  rw [eventsByTask, get?_foldl_keep, Table.get?_empty] at h
  obtain ⟨hmem, -, hmax⟩ := foldl_outrank_eq_some h
  have he := hmem.resolve_left (by simp)
  simp only [List.mem_filter, decide_eq_true_eq] at he hmax
  exact ⟨he.1, he.2, fun e' he' hk => hmax e' ⟨he', hk⟩⟩

/-- **The event kept for a task is the one with the highest id**, when no event id is repeated. -/
theorem get?_eventsByTask_eq_some_iff {events : List Event} (hn : (events.map (·.id)).Nodup)
    {k : Int64} {e : Event} :
    (eventsByTask events).get? k = some e ↔
      e ∈ events ∧ e.taskId = k ∧ ∀ e' ∈ events, e'.taskId = k → e'.id ≤ e.id := by
  refine ⟨eventsByTask_spec, ?_⟩
  rintro ⟨he, hk, hmax⟩
  have hfilter : e ∈ events.filter (·.taskId = k) := by simp [he, hk]
  obtain ⟨e', he'⟩ := exists_foldl_outrank _ none (.inr (List.ne_nil_of_mem hfilter))
  have hget : (eventsByTask events).get? k = some e' := by
    rw [eventsByTask, get?_foldl_keep]
    exact he'
  obtain ⟨hmem', hk', hmax'⟩ := eventsByTask_spec hget
  have hid : e'.id = e.id := Int64.le_antisymm (hmax e' hmem' hk') (hmax' e he hk)
  rw [hget, List.inj_on_of_nodup_map hn hmem' he hid]

/-! ### The stages of a join -/

/-- When no task id is repeated, each task gets the event kept for it. -/
theorem attach_eq_map {tasks : List Task} (hn : (tasks.map (·.id)).Nodup) (kept : Table Event) :
    attach kept tasks = tasks.map fun t => ⟨t, kept.get? t.id⟩ := by
  induction tasks generalizing kept with
  | nil => rfl
  | cons t ts ih =>
    obtain ⟨ht, hts⟩ := List.nodup_cons.mp hn
    rw [attach, ih hts, List.map_cons]
    congr 1
    refine List.map_congr_left fun u hu => ?_
    have hne : t.id ≠ u.id := fun h => ht (List.mem_map.mpr ⟨u, hu, h.symm⟩)
    rw [Table.get?_erase, if_neg hne]

/-- The tasks filed under a device are those of the device, in their order. -/
theorem getD_get?_foldl_file (taskEvents : List TaskEvent) (filed : Table (List TaskEvent))
    (k : Int64) :
    ((taskEvents.foldl file filed).get? k).getD [] =
      (filed.get? k).getD [] ++ taskEvents.filter (·.task.deviceId = k) := by
  induction taskEvents generalizing filed with
  | nil => simp
  | cons te taskEvents ih =>
    rw [List.foldl_cons, ih, file, Table.get?_insert]
    by_cases hk : te.task.deviceId = k <;> simp [hk]

/-- The tasks of a device are those that name it, in their order. -/
theorem getD_get?_byDevice (taskEvents : List TaskEvent) (k : Int64) :
    ((byDevice taskEvents).get? k).getD [] = taskEvents.filter (·.task.deviceId = k) := by
  rw [byDevice, getD_get?_foldl_file]
  simp

/-- When no device id is repeated, each device gets the tasks filed under it. -/
theorem collect_eq_map {devices : List Device} (hn : (devices.map (·.id)).Nodup)
    (filed : Table (List TaskEvent)) :
    collect filed devices = devices.map fun d => ⟨d, sort ((filed.get? d.id).getD [])⟩ := by
  induction devices generalizing filed with
  | nil => rfl
  | cons d ds ih =>
    obtain ⟨hd, hds⟩ := List.nodup_cons.mp hn
    rw [collect, ih hds, List.map_cons]
    congr 1
    refine List.map_congr_left fun c hc => ?_
    have hne : d.id ≠ c.id := fun h => hd (List.mem_map.mpr ⟨c, hc, h.symm⟩)
    rw [Table.get?_erase, if_neg hne]

/-! ### What the histories hold -/

/-- A served event makes a run: its task and the task's device are served, and no served event of
the task has a higher id. -/
structure IsRun (devices : List Device) (tasks : List Task) (events : List Event)
    (d : Device) (t : Task) (e : Event) : Prop where
  device_mem : d ∈ devices
  task_mem : t ∈ tasks
  event_mem : e ∈ events
  device_id : t.deviceId = d.id
  task_id : e.taskId = t.id
  highest : ∀ e' ∈ events, e'.taskId = e.taskId → e'.id ≤ e.id

/-- **The histories hold exactly the runs of the served lists**, when no id is repeated. -/
theorem mem_join_iff {devices : List Device} {tasks : List Task} {events : List Event}
    (hd : (devices.map (·.id)).Nodup) (ht : (tasks.map (·.id)).Nodup)
    (he : (events.map (·.id)).Nodup) {d : Device} {t : Task} {e : Event} :
    (∃ dt ∈ join devices tasks events, dt.device = d ∧ ⟨t, some e⟩ ∈ dt.taskEvents) ↔
      IsRun devices tasks events d t e := by
  have hperm := List.mergeSort_perm devices fun a b => decide (a.name ≤ b.name)
  have hsorted : ((sortDevices devices).map (·.id)).Nodup := (hperm.map _).nodup_iff.mpr hd
  simp only [join, collect_eq_map hsorted, attach_eq_map ht, List.mem_map, getD_get?_byDevice,
    exists_exists_and_eq_and, sort, List.mem_mergeSort, List.mem_filter, TaskEvent.mk.injEq,
    decide_eq_true_eq]
  constructor
  · rintro ⟨c, hc, rfl, ⟨u, hu, rfl, hkept⟩, hdev⟩
    obtain ⟨hmem, htask, hmax⟩ := (get?_eventsByTask_eq_some_iff he).mp hkept
    exact ⟨hperm.mem_iff.mp hc, hu, hmem, hdev, htask, htask ▸ hmax⟩
  · rintro ⟨hdm, htm, hem, hdev, htask, hmax⟩
    refine ⟨d, hperm.mem_iff.mpr hdm, rfl, ⟨t, htm, rfl, ?_⟩, hdev⟩
    exact (get?_eventsByTask_eq_some_iff he).mpr ⟨hem, htask, htask ▸ hmax⟩

end Household.History
