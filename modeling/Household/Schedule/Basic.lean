import Household.Binary64.Basic
import Household.Instant.Basic
import Household.Text.Decimal

/-!
# Devices, Tasks and Events

A task asks that a device runs for a while inside a time span. An event is the start that the
scheduling server has picked for a task. Together, a task and its event make a scheduled run.

## Main results

* `NewTask.validate_eq_ok_iff`: which tasks are accepted.
-/

namespace Household

/-- A device that tasks can run on, with its power draw in watts. -/
structure Device where
  id : Int64
  name : String
  power : Binary64
deriving DecidableEq

/-- The window in which a task may run. -/
structure Window where
  start : Instant
  finish : Instant
deriving DecidableEq

/-- The length of a window, negative if it ends before it starts. -/
def Window.length (w : Window) : Span :=
  w.finish.since w.start

/-- A run of `durationMs` milliseconds in one piece that a device has to make inside a window. -/
structure Task where
  id : Int64
  deviceId : Int64
  window : Window
  durationMs : Int64
deriving DecidableEq

/-- The running time of a task. -/
def Task.duration (t : Task) : Except RangeError Span :=
  Span.ofMillis t.durationMs

/-- The start that the server has picked for a task. -/
structure Event where
  id : Int64
  taskId : Int64
  start : Instant
deriving DecidableEq

/-- A task and the event picked for it, if there is one. -/
structure TaskEvent where
  task : Task
  event : Option Event
deriving DecidableEq

/-- The end of the scheduled run, if there is one. -/
def TaskEvent.endTime (te : TaskEvent) : Except RangeError (Option Instant) :=
  match te.event with
  | none => .ok none
  | some e => do return some (← e.start.add (← te.task.duration))

/-- A device with the history of its tasks. -/
structure DeviceTask where
  device : Device
  taskEvents : List TaskEvent
deriving DecidableEq

/-! ### New tasks -/

/-- A task before the server has given it an id. -/
structure NewTask where
  deviceId : Int64
  window : Window
  durationMs : Int64
deriving DecidableEq

/-- The task with an id. -/
def NewTask.withId (t : NewTask) (id : Int64) : Task :=
  { id, deviceId := t.deviceId, window := t.window, durationMs := t.durationMs }

/-- Why a new task is refused. -/
inductive TaskFault
  /-- The window does not last a millisecond. -/
  | emptyWindow
  /-- The duration is not positive. -/
  | nonPositiveDuration
  /-- The window is shorter than the duration, both in milliseconds. -/
  | durationExceedsWindow (durationMs : Int64) (windowMs : Int)
deriving DecidableEq, Repr

/-- The text of a task fault. -/
def TaskFault.message : TaskFault → String
  | .emptyWindow => "time span must end after it starts"
  | .nonPositiveDuration => "duration must be positive"
  | .durationExceedsWindow d w =>
    "duration of " ++ String.ofList (Text.signed d.toInt) ++ " ms does not fit in a "
      ++ String.ofList (Text.signed w) ++ " ms window"

/-- Accepts a task that fits its window: an empty window is reported before a bad duration, and
that before one that is too long. -/
def NewTask.validate (t : NewTask) : Except TaskFault Unit :=
  let windowMs := t.window.length.millis
  if windowMs ≤ 0 then .error .emptyWindow
  else if t.durationMs.toInt ≤ 0 then .error .nonPositiveDuration
  else if windowMs < t.durationMs.toInt then
    .error (.durationExceedsWindow t.durationMs windowMs)
  else .ok ()

/-- A task is accepted when its duration is positive and no longer than the whole milliseconds of
its window. -/
theorem NewTask.validate_eq_ok_iff (t : NewTask) :
    t.validate = .ok () ↔ 0 < t.durationMs.toInt ∧ t.durationMs.toInt ≤ t.window.length.millis := by
  unfold NewTask.validate
  dsimp only
  split
  · simp only [reduceCtorEq, false_iff]; omega
  · split
    · simp only [reduceCtorEq, false_iff]; omega
    · split
      · simp only [reduceCtorEq, false_iff]; omega
      · simp only [true_iff]; omega

end Household
