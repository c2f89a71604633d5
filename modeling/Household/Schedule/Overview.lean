import Household.Schedule.Basic

/-!
# The Overview

One line for each device: its latest scheduled run and what the device is doing. A device with a run
is scheduled before the start of the run, active from the start up to but not including its end, and
inactive from then on; a device without a run is inactive.
-/

namespace Household

/-- What a device is doing. -/
inductive DeviceState
  | inactive
  | scheduled
  | active
deriving DecidableEq, Repr

/-- The name of a state. -/
def DeviceState.name : DeviceState → String
  | .inactive => "inactive"
  | .scheduled => "scheduled"
  | .active => "active"

/-- The state of a device with this run at a moment. The end of the run is only looked at once it
has started. -/
def DeviceState.ofRun (run : Option TaskEvent) (now : Instant) : Except RangeError DeviceState :=
  match run with
  | none => .ok .inactive
  | some te =>
    match te.event with
    | none => .ok .inactive
    | some e =>
      if now < e.start then .ok .scheduled
      else do
        let finish ← e.start.add (← te.task.duration)
        return if now < finish then .active else .inactive

/-- A device and its primary run. -/
structure OverviewLine where
  device : Device
  run : Option TaskEvent
deriving DecidableEq

/-- The primary run of a history is its first task that has an event. -/
def DeviceTask.overviewLine (dt : DeviceTask) : OverviewLine :=
  { device := dt.device, run := dt.taskEvents.find? (·.event.isSome) }

/-- One line for each device. -/
def overview (deviceTasks : List DeviceTask) : List OverviewLine :=
  deviceTasks.map DeviceTask.overviewLine

/-- Each line with its state; a range error of one line is one of the whole. -/
def overviewAt (deviceTasks : List DeviceTask) (now : Instant) :
    Except RangeError (List (OverviewLine × DeviceState)) :=
  (overview deviceTasks).mapM fun line => do
    return (line, ← DeviceState.ofRun line.run now)

end Household
