import Household.Proofs.Schedule.Order
import Household.Proofs.Schedule.Running
import Mathlib.Data.List.Find
import Mathlib.Data.List.Induction

/-!
# What a Join Is, Repetitions Included

A join fills tables and empties them again, so that of repeated ids one wins and the others go away
empty-handed. Which one that is can be said from the listed order alone: the first task with an id
carries the event picked for it, and the first device with an id by name has the tasks of that id.

## Main results

* `get?_eventsByTask`: the event kept for a task is the one picked for it.
* `attach_eventsByTask`: each task carries the event that it is paired with.
* `isJoin_iff_and_holdsOnce`: the joined histories are the only ones that meet this description, and
  hold no task and no event twice.
-/

namespace Household.History

/-! ### The event picked for a task -/

/-- The event picked for a task: of its events one with the highest id, and of those the first. -/
def picked? (events : List Event) (taskId : Int64) : Option Event :=
  events.find? fun e => e.taskId = taskId ∧ ∀ f ∈ events, f.taskId = taskId → f.id ≤ e.id

/-- No event of the list has a higher id. -/
def Tops (l : List Event) (e : Event) : Prop :=
  ∀ f ∈ l, f.id ≤ e.id

instance (l : List Event) : DecidablePred (Tops l) :=
  fun _ => inferInstanceAs (Decidable (∀ f ∈ l, _))

/-- One more event must not have a higher id either. -/
theorem tops_append_singleton {l : List Event} {x e : Event} :
    Tops (l ++ [x]) e ↔ Tops l e ∧ x.id ≤ e.id := by
  simp only [Tops, List.forall_mem_append, List.forall_mem_singleton]

/-- The event that stays of some events is the first that has no higher id above it. -/
theorem foldl_outrank_eq_find? (l : List Event) :
    l.foldl outrank none = l.find? fun e => Tops l e := by
  induction l using List.reverseRecOn with
  | nil => rfl
  | append_singleton l x ih =>
    rw [List.foldl_append, List.foldl_cons, List.foldl_nil, List.find?_append]
    cases hold : l.foldl outrank none with
    | none =>
      obtain rfl : l = [] := by
        by_contra hne
        obtain ⟨e, he⟩ := exists_foldl_outrank l none (.inr hne)
        exact absurd (hold.symm.trans he) (by simp)
      simp [outrank, Tops]
    | some old =>
      rw [hold] at ih
      obtain ⟨-, -, hmax⟩ := foldl_outrank_eq_some hold
      by_cases hlt : old.id < x.id
      · -- The new event has a higher id than all before.
        have hnone : ∀ e ∈ l, ¬ Tops (l ++ [x]) e := by
          intro e he htops
          have hxe := (tops_append_singleton.mp htops).2
          exact Int64.not_le.mpr hlt (Int64.le_trans hxe (hmax e he))
        have hx : Tops (l ++ [x]) x :=
          tops_append_singleton.mpr
            ⟨fun f hf => Int64.le_trans (hmax f hf) (Int64.le_of_lt hlt), Int64.le_refl _⟩
        rw [List.find?_eq_none.mpr (by simpa using hnone), Option.none_or,
          List.find?_cons_of_pos (by simpa using hx), outrank, if_pos hlt]
      · -- The new event has no higher id than the one that has stayed so far.
        have hsame : ∀ e ∈ l, Tops (l ++ [x]) e ↔ Tops l e := by
          refine fun e _ => tops_append_singleton.trans (and_iff_left_of_imp fun htops => ?_)
          have hmem := List.mem_of_find?_eq_some ih.symm
          exact Int64.le_trans (Int64.not_lt.mp hlt) (htops old hmem)
        rw [List.find?_congr fun e he => decide_eq_decide.mpr (hsame e he), ← ih, Option.some_or,
          outrank, if_neg hlt]

/-- **The event kept for a task is the one picked for it.** -/
theorem get?_eventsByTask (events : List Event) (taskId : Int64) :
    (eventsByTask events).get? taskId = picked? events taskId := by
  rw [eventsByTask, get?_foldl_keep, Table.get?_empty, foldl_outrank_eq_find?, List.find?_filter,
    picked?]
  refine List.find?_congr fun e _ => ?_
  simp [Tops, List.mem_filter]

variable {events : List Event} {tasks : List Task} {devices : List Device} {taskId : Int64}

/-- The event picked for a task belongs to it, and no other event of the task has a higher id. -/
theorem picked?_spec {e : Event} (h : picked? events taskId = some e) :
    e ∈ events ∧ e.taskId = taskId ∧ ∀ f ∈ events, f.taskId = taskId → f.id ≤ e.id :=
  eventsByTask_spec (get?_eventsByTask events taskId ▸ h)

/-- No event is picked for a task when there is none. -/
theorem picked?_eq_none_iff :
    picked? events taskId = none ↔ ∀ e ∈ events, e.taskId ≠ taskId := by
  constructor
  · intro h e he hid
    have hne : events.filter (·.taskId = taskId) ≠ [] :=
      List.ne_nil_of_mem (List.mem_filter.mpr ⟨he, by simpa using hid⟩)
    obtain ⟨f, hf⟩ := exists_foldl_outrank _ none (.inr hne)
    rw [← get?_eventsByTask, eventsByTask, get?_foldl_keep, Table.get?_empty, hf] at h
    cases h
  · intro h
    refine List.find?_eq_none.mpr fun e he hpick => ?_
    exact h e he (of_decide_eq_true hpick).1

/-! ### Tasks with their events -/

/-- Each task with the event that it carries: the first task with an id carries the event picked for
it. -/
def paired (tasks : List Task) (events : List Event) : List TaskEvent :=
  tasks.mapIdx fun i t =>
    ⟨t, if t.id ∈ (tasks.take i).map (·.id) then none else picked? events t.id⟩

/-- A task carries an event exactly if none before it has its id and there is an event for it. -/
theorem isSome_event_paired_iff {i : Nat} {te : TaskEvent}
    (h : (paired tasks events)[i]? = some te) :
    te.event.isSome = true ↔
      te.task.id ∉ (tasks.take i).map (·.id) ∧ ∃ e ∈ events, e.taskId = te.task.id := by
  rw [paired, List.getElem?_mapIdx] at h
  obtain ⟨t, -, rfl⟩ := Option.map_eq_some_iff.mp h
  dsimp only
  split
  · next hmem => exact iff_of_false (by simp) fun hnot => hnot.1 hmem
  · next hmem =>
    rw [and_iff_right hmem, Option.isSome_iff_ne_none, Ne, picked?_eq_none_iff]
    simp only [ne_eq, not_forall, not_not, exists_prop]

/-- Of tasks with one id the first takes what is kept under it. -/
theorem attach_eq_mapIdx (kept : Table Event) (tasks : List Task) :
    attach kept tasks = tasks.mapIdx fun i t =>
      ⟨t, if t.id ∈ (tasks.take i).map (·.id) then none else kept.get? t.id⟩ := by
  induction tasks generalizing kept with
  | nil => rfl
  | cons t ts ih =>
    rw [attach, ih, List.mapIdx_cons]
    refine congrArg₂ _ (by simp) (congrArg (ts.mapIdx ·) (funext₂ fun i u => ?_))
    by_cases hid : t.id = u.id
    · simp [hid]
    · simp [hid, Ne.symm hid]

/-- **Each task carries the event that it is paired with.** -/
theorem attach_eventsByTask (tasks : List Task) (events : List Event) :
    attach (eventsByTask events) tasks = paired tasks events := by
  simp only [attach_eq_mapIdx, get?_eventsByTask, paired]

/-- What a task carries was kept under its id. -/
theorem get?_of_mem_attach {kept : Table Event} {te : TaskEvent} {e : Event}
    (h : te ∈ attach kept tasks) (he : te.event = some e) : kept.get? te.task.id = some e := by
  rw [attach_eq_mapIdx, List.mem_mapIdx] at h
  obtain ⟨i, hi, rfl⟩ := h
  dsimp only at he ⊢
  split at he
  · cases he
  · exact he

/-- No two tasks carry events of one task. -/
theorem nodup_taskId_attach {kept : Table Event} (hk : kept.Keyed (·.taskId)) (tasks : List Task) :
    (((attach kept tasks).filterMap (·.event)).map (·.taskId)).Nodup := by
  induction tasks generalizing kept with
  | nil => simp [attach]
  | cons t ts ih =>
    have hrest := ih (hk.erase t.id)
    rw [attach, List.filterMap_cons]
    cases hget : kept.get? t.id with
    | none => exact hrest
    | some e =>
      refine List.nodup_cons.mpr ⟨?_, hrest⟩
      simp only [List.mem_map, List.mem_filterMap]
      rintro ⟨f, ⟨te, hte, hf⟩, hid⟩
      -- What a later task carries is kept under another id, once `t` has taken its event.
      have hkept := get?_of_mem_attach hte hf
      rw [Table.get?_erase] at hkept
      split at hkept
      · cases hkept
      · next hne => exact hne ((hk _ _ hget).symm.trans (hid.symm.trans (hk _ _ hkept)))

/-- The events kept for tasks are kept under the ids of their tasks. -/
theorem keyed_eventsByTask (events : List Event) : (eventsByTask events).Keyed (·.taskId) :=
  fun _ _ h => (eventsByTask_spec h).2.1

/-! ### Devices with their tasks -/

/-- Of devices with one id the first takes what is filed under it. -/
theorem collect_eq_mapIdx (filed : Table (List TaskEvent)) (devices : List Device) :
    collect filed devices = devices.mapIdx fun i d =>
      ⟨d, if d.id ∈ (devices.take i).map (·.id) then [] else sort ((filed.get? d.id).getD [])⟩ := by
  induction devices generalizing filed with
  | nil => rfl
  | cons d ds ih =>
    rw [collect, ih, List.mapIdx_cons]
    refine congrArg₂ _ (by simp) (congrArg (ds.mapIdx ·) (funext₂ fun i c => ?_))
    by_cases hid : d.id = c.id
    · simp [hid, sort]
    · simp [hid, Ne.symm hid]

/-- The tasks of a device, with the events that they carry. -/
def ownOf (tasks : List Task) (events : List Event) (deviceId : Int64) : List TaskEvent :=
  (paired tasks events).filter (·.task.deviceId = deviceId)

/-- The joined histories, one device after another. -/
theorem join_eq_mapIdx (devices : List Device) (tasks : List Task) (events : List Event) :
    join devices tasks events = (sortDevices devices).mapIdx fun i d =>
      ⟨d, if d.id ∈ ((sortDevices devices).take i).map (·.id) then []
        else sort (ownOf tasks events d.id)⟩ := by
  simp only [join, collect_eq_mapIdx, getD_get?_byDevice, attach_eventsByTask, ownOf]

/-- The devices of the joined histories are the listed ones by name. -/
theorem map_device_join (devices : List Device) (tasks : List Task) (events : List Event) :
    (join devices tasks events).map (·.device) = sortDevices devices :=
  map_device_collect _ _

/-! ### The description of a join -/

/-- What joined histories are, in terms of the listed order. -/
structure IsJoin (devices : List Device) (tasks : List Task) (events : List Event)
    (histories : List DeviceTask) : Prop where
  /-- The devices are the listed ones, sorted stably by name. -/
  byName : IsStableSort Device.Precedes devices (histories.map (·.device))
  /-- A device after another one of its id has no history. -/
  repeated : ∀ i dt, histories[i]? = some dt →
    dt.device.id ∈ (histories.take i).map (·.device.id) → dt.taskEvents = []
  /-- Any other device has the tasks that name it, each with the event that it carries, sorted
  stably with runs first and late ones before early ones. -/
  own : ∀ i dt, histories[i]? = some dt →
    dt.device.id ∉ (histories.take i).map (·.device.id) →
      IsStableSort TaskEvent.Precedes (ownOf tasks events dt.device.id) dt.taskEvents

/-- The joined histories are described so. -/
theorem isJoin_join (devices : List Device) (tasks : List Task) (events : List Event) :
    IsJoin devices tasks events (join devices tasks events) := by
  have hearlier : ∀ i, ((join devices tasks events).take i).map (·.device.id) =
      ((sortDevices devices).take i).map (·.id) := by
    intro i
    rw [← map_device_join devices tasks events, ← List.map_take, List.map_map]
    rfl
  have hplace : ∀ i dt, (join devices tasks events)[i]? = some dt → dt.taskEvents =
      if dt.device.id ∈ ((sortDevices devices).take i).map (·.id) then []
      else sort (ownOf tasks events dt.device.id) := by
    intro i dt hdt
    rw [join_eq_mapIdx, List.getElem?_mapIdx] at hdt
    obtain ⟨d, -, rfl⟩ := Option.map_eq_some_iff.mp hdt
    rfl
  refine ⟨?_, fun i dt hdt hmem => ?_, fun i dt hdt hmem => ?_⟩
  · rw [map_device_join]
    exact isStableSort_sortDevices devices
  · rw [hearlier] at hmem
    rw [hplace i dt hdt, if_pos hmem]
  · rw [hearlier] at hmem
    rw [hplace i dt hdt, if_neg hmem]
    exact isStableSort_sort _

/-- Only the joined histories are. -/
theorem IsJoin.eq_join {histories : List DeviceTask} (h : IsJoin devices tasks events histories) :
    histories = join devices tasks events := by
  have hdevices : histories.map (·.device) = sortDevices devices :=
    h.byName.unique Device.precedes_refl (isStableSort_sortDevices devices)
  rw [join_eq_mapIdx, ← hdevices]
  refine List.ext_getElem? fun i => ?_
  rw [List.getElem?_mapIdx, List.getElem?_map, Option.map_map]
  cases hdt : histories[i]? with
  | none => rfl
  | some dt =>
    have hearlier : ((histories.map (·.device)).take i).map (·.id) =
        (histories.take i).map (·.device.id) := by
      rw [← List.map_take, List.map_map]
      rfl
    have htaskEvents : dt.taskEvents =
        if dt.device.id ∈ (histories.take i).map (·.device.id) then []
        else sort (ownOf tasks events dt.device.id) := by
      split
      · next hmem => exact h.repeated i dt hdt hmem
      · next hmem =>
        exact (h.own i dt hdt hmem).unique TaskEvent.precedes_refl (isStableSort_sort _)
    rw [Option.map_some, Function.comp_apply, hearlier, ← htaskEvents]

/-! ### Nothing is held twice -/

/-- What the histories hold of the listed tasks and events. -/
structure HoldsOnce (devices : List Device) (tasks : List Task) (events : List Event)
    (held : List TaskEvent) : Prop where
  /-- Every task of a listed device is held once, and no other task. -/
  tasks : (held.map (·.task)).Perm (tasks.filter fun t => t.deviceId ∈ devices.map (·.id))
  /-- Every event held is listed, for the task that carries it. -/
  events : ∀ te ∈ held, ∀ e ∈ te.event, e ∈ events ∧ e.taskId = te.task.id
  /-- No two events of one task are held, nor one event twice. -/
  once : ((held.filterMap (·.event)).map (·.taskId)).Nodup

/-- Collecting gives out every task-event of a listed device, whatever device comes first. -/
theorem flatMap_collect_perm (taskEvents : List TaskEvent) (devices : List Device)
    (filed : Table (List TaskEvent))
    (hfiled : ∀ k, (filed.get? k).getD [] = taskEvents.filter (·.task.deviceId = k)) :
    ((collect filed devices).flatMap (·.taskEvents)).Perm
      (taskEvents.filter fun te => te.task.deviceId ∈ devices.map (·.id)) := by
  induction devices generalizing filed taskEvents with
  | nil => simp [collect]
  | cons d ds ih =>
    -- The later devices share what is not filed under `d`.
    have hrest : ∀ k, ((filed.erase d.id).get? k).getD [] =
        (taskEvents.filter (·.task.deviceId ≠ d.id)).filter (·.task.deviceId = k) := by
      intro k
      rw [Table.get?_erase, List.filter_filter]
      split
      · next hk => simp [← hk]
      · next hk =>
        rw [hfiled]
        refine List.filter_congr fun te _ => ?_
        by_cases hte : te.task.deviceId = k <;> simp [hte, Ne.symm hk]
    have hsplit := List.filter_append_perm (fun te : TaskEvent => te.task.deviceId = d.id)
      (taskEvents.filter fun te => te.task.deviceId ∈ (d :: ds).map (·.id))
    rw [collect, List.flatMap_cons]
    refine (List.Perm.append ?_ ((ih _ _ hrest).trans ?_)).trans hsplit
    · rw [hfiled, List.filter_filter]
      refine (List.mergeSort_perm _ _).trans (List.Perm.of_eq (List.filter_congr fun te _ => ?_))
      by_cases hte : te.task.deviceId = d.id <;> simp [hte]
    · rw [List.filter_filter, List.filter_filter]
      refine List.Perm.of_eq (List.filter_congr fun te _ => ?_)
      by_cases hte : te.task.deviceId = d.id <;> simp [hte]

/-- The joined histories hold the task-events of the listed devices. -/
theorem flatMap_join_perm (devices : List Device) (tasks : List Task) (events : List Event) :
    ((join devices tasks events).flatMap (·.taskEvents)).Perm
      ((attach (eventsByTask events) tasks).filter fun te =>
        te.task.deviceId ∈ devices.map (·.id)) := by
  refine (flatMap_collect_perm _ _ _ (getD_get?_byDevice _)).trans (List.Perm.of_eq ?_)
  have hperm : (sortDevices devices).Perm devices := (isStableSort_sortDevices devices).perm
  exact List.filter_congr fun te _ => decide_eq_decide.mpr (hperm.map (·.id)).mem_iff

/-- The joined histories hold nothing twice. -/
theorem holdsOnce_join (devices : List Device) (tasks : List Task) (events : List Event) :
    HoldsOnce devices tasks events ((join devices tasks events).flatMap (·.taskEvents)) := by
  have hperm := flatMap_join_perm devices tasks events
  refine ⟨?_, fun te hte e he => ?_, ?_⟩
  · have htasks := map_task_attach (eventsByTask events) tasks
    refine (hperm.map _).trans (List.Perm.of_eq ?_)
    conv_rhs => rw [← htasks, List.filter_map]
    rfl
  · have hmem := List.mem_of_mem_filter (hperm.mem_iff.mp hte)
    obtain ⟨hevent, hid, -⟩ := eventsByTask_spec (get?_of_mem_attach hmem he)
    exact ⟨hevent, hid⟩
  · rw [((hperm.filterMap _).map _).nodup_iff]
    exact (nodup_taskId_attach (keyed_eventsByTask events) tasks).sublist
      ((List.filter_sublist.filterMap _).map _)

/-- **The joined histories are the only ones that meet the description of a join, and they hold
nothing twice**, whatever is repeated in the lists. In the description a task carries an event
exactly if it is the first with its id and there is one for it. -/
theorem isJoin_iff_and_holdsOnce (devices : List Device) (tasks : List Task)
    (events : List Event) :
    (∀ histories, IsJoin devices tasks events histories ↔
      histories = join devices tasks events) ∧
    (∀ (i : Nat) te, (paired tasks events)[i]? = some te →
      (te.event.isSome = true ↔
        te.task.id ∉ (tasks.take i).map (·.id) ∧ ∃ e ∈ events, e.taskId = te.task.id)) ∧
    HoldsOnce devices tasks events ((join devices tasks events).flatMap (·.taskEvents)) := by
  refine ⟨fun histories => ⟨IsJoin.eq_join, ?_⟩, fun i te => isSome_event_paired_iff,
    holdsOnce_join devices tasks events⟩
  rintro rfl
  exact isJoin_join devices tasks events

end Household.History
