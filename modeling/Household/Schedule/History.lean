import Household.Schedule.Basic
import Household.Table

/-!
# Device Histories

The server lists devices, tasks and events apart. Joined, they give each device the history of its
tasks: the devices by name, the runs of each by descending start, and after them the tasks that no
event was picked for.

Lists may hold repetitions. Of several events for one task the one with the highest id counts, and
of those the first. Of several tasks with one id the first takes the event. Of several devices with
one id the first by name takes the tasks. Tasks of a device that is not listed are left out.

## Main results

* `map_task_attach`: attaching events keeps every task in its place.
* `map_device_collect`: the devices of the histories are the devices asked for.
-/

namespace Household

/-- The order of a history: tasks with an event first, by descending start. -/
def TaskEvent.order (a b : TaskEvent) : Ordering :=
  match a.event, b.event with
  | some e, some f => f.start.order e.start
  | some _, none => .lt
  | none, some _ => .gt
  | none, none => .eq

namespace History

/-- Keeps an event for its task unless one with the same or a higher id is already there. -/
def keep (kept : Table Event) (e : Event) : Table Event :=
  match kept.get? e.taskId with
  | some old => if old.id < e.id then kept.insert e.taskId e else kept
  | none => kept.insert e.taskId e

/-- The event that counts for each task. -/
def eventsByTask (events : List Event) : Table Event :=
  events.foldl keep .empty

/-- Gives each task its event, which then is no longer there for a later task of the same id. -/
def attach : Table Event → List Task → List TaskEvent
  | _, [] => []
  | kept, t :: ts => ⟨t, kept.get? t.id⟩ :: attach (kept.erase t.id) ts

/-- Appends a task to those of its device. -/
def file (filed : Table (List TaskEvent)) (te : TaskEvent) : Table (List TaskEvent) :=
  filed.insert te.task.deviceId ((filed.get? te.task.deviceId).getD [] ++ [te])

/-- The tasks of each device in their order. -/
def byDevice (taskEvents : List TaskEvent) : Table (List TaskEvent) :=
  taskEvents.foldl file .empty

/-- Devices by name, in code point order; those of one name keep their order. -/
def sortDevices (devices : List Device) : List Device :=
  devices.mergeSort fun a b => a.name ≤ b.name

/-- A history in its order; equals keep theirs. -/
def sort (taskEvents : List TaskEvent) : List TaskEvent :=
  taskEvents.mergeSort fun a b => (a.order b).isLE

/-- Gives each device its tasks, which then are no longer there for a later device of the same
id. -/
def collect : Table (List TaskEvent) → List Device → List DeviceTask
  | _, [] => []
  | filed, d :: ds => ⟨d, sort ((filed.get? d.id).getD [])⟩ :: collect (filed.erase d.id) ds

/-- The histories of the devices. -/
def join (devices : List Device) (tasks : List Task) (events : List Event) : List DeviceTask :=
  collect (byDevice (attach (eventsByTask events) tasks)) (sortDevices devices)

/-! ### Nothing is moved or lost on the way -/

/-- Attaching events changes no task and loses none. -/
theorem map_task_attach (kept : Table Event) (tasks : List Task) :
    (attach kept tasks).map (·.task) = tasks := by
  induction tasks generalizing kept with
  | nil => rfl
  | cons t ts ih => simp [attach, ih]

/-- Collecting task-events changes no device and loses none. -/
theorem map_device_collect (filed : Table (List TaskEvent)) (devices : List Device) :
    (collect filed devices).map (·.device) = devices := by
  induction devices generalizing filed with
  | nil => rfl
  | cons d ds ih => simp [collect, ih]

/-- There is one history for each device. -/
theorem perm_map_device_join (devices : List Device) (tasks : List Task) (events : List Event) :
    ((join devices tasks events).map (·.device)).Perm devices := by
  rw [join, map_device_collect]
  exact List.mergeSort_perm _ _

end History

end Household
