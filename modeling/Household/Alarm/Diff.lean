import Household.Alarm.Basic
import Household.Table

/-!
# What Is to Change in the Alarm Table

The events that the server lists are compared with the stored alarms by id alone: an event without
an alarm gets one, an alarm without an event goes. Of several events with one id the first counts.

## Main results

* `reconcile_toDelete`: the alarms that go are those of no listed event, in their order.
* `isEmpty_iff`: a diff is empty when there is nothing to insert and nothing to delete.
-/

namespace Household

/-- Alarms to insert and to delete. -/
structure Diff where
  toInsert : List Alarm
  toDelete : List Alarm
deriving DecidableEq

namespace Diff

/-- Nothing is to change. -/
def isEmpty (d : Diff) : Bool :=
  d.toInsert.isEmpty && d.toDelete.isEmpty

/-- The alarms of the runs in some histories, in their order. -/
def alarmsOf (deviceTasks : List DeviceTask) : List Alarm :=
  deviceTasks.flatMap fun dt => dt.taskEvents.filterMap fun te =>
    te.event.map (Alarm.ofRun dt.device te.task)

/-- Adds an alarm unless its id is taken. -/
def addFirst (live : Table Alarm) (a : Alarm) : Table Alarm :=
  if live.contains a.id then live else live.insert a.id a

/-- The first alarm of each id. -/
def live (alarms : List Alarm) : Table Alarm :=
  alarms.foldl addFirst .empty

/-- The changes that bring the stored alarms in line with the listed runs; the insertions by
ascending id, the deletions in the order of the stored alarms. -/
def reconcile (deviceTasks : List DeviceTask) (stored : List Alarm) : Diff :=
  let live := live (alarmsOf deviceTasks)
  { toInsert := live.values.filter fun a => !(stored.map (·.id)).contains a.id
    toDelete := stored.filter fun a => !live.contains a.id }

/-- An empty diff has nothing to insert and nothing to delete. -/
theorem isEmpty_iff (d : Diff) : d.isEmpty = true ↔ d.toInsert = [] ∧ d.toDelete = [] := by
  simp [isEmpty]

/-- The alarms that go are those of no listed event. -/
theorem reconcile_toDelete (deviceTasks : List DeviceTask) (stored : List Alarm) :
    (reconcile deviceTasks stored).toDelete =
      stored.filter fun a => !(live (alarmsOf deviceTasks)).contains a.id :=
  rfl

end Diff

end Household
