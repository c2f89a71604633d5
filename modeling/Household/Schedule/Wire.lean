import Household.Json.Record
import Household.Schedule.Overview

/-!
# The Schedule on the Wire

How devices, tasks and events are written in JSON and read from it. Fields are written in the order
of their declaration.

## Main results

* `Event.ofJson?_toJson`: an event is read back from its fields where its start is.
-/

namespace Household

open Json

/-- A missing or null power draw counts as none. -/
def Device.readPower? : Option Json → Option Binary64
  | none => some .zero
  | some .null => some .zero
  | some v => double? v

/-- A device as an object. -/
def Device.toJson (d : Device) : Json :=
  .object [("id", word d.id), ("name", .text d.name), ("power_watts", double d.power)]

/-- Reads a device; its power draw may be left out. -/
def Device.ofJson? (v : Json) : Option Device := do
  match ← record? ["id", "name", "power_watts"] v with
  | [some id, some name, power] =>
    return { id := ← word? id, name := ← text? name, power := ← readPower? power }
  | _ => none

/-- A window as an object with its two ends. -/
def Window.toJson (w : Window) : Json :=
  .object [("start", instant w.start), ("end", instant w.finish)]

/-- Reads a window. -/
def Window.ofJson? (v : Json) : Option Window := do
  match ← record? ["start", "end"] v with
  | [some start, some finish] => return { start := ← instant? start, finish := ← instant? finish }
  | _ => none

/-- A task as an object. -/
def Task.toJson (t : Task) : Json :=
  .object [("id", word t.id), ("device_id", word t.deviceId), ("time_span", t.window.toJson),
    ("duration_ms", word t.durationMs)]

/-- Reads a task. -/
def Task.ofJson? (v : Json) : Option Task := do
  match ← record? ["id", "device_id", "time_span", "duration_ms"] v with
  | [some id, some deviceId, some window, some durationMs] =>
    return {
      id := ← word? id
      deviceId := ← word? deviceId
      window := ← Window.ofJson? window
      durationMs := ← word? durationMs }
  | _ => none

/-- A new task as an object. -/
def NewTask.toJson (t : NewTask) : Json :=
  .object [("device_id", word t.deviceId), ("time_span", t.window.toJson),
    ("duration_ms", word t.durationMs)]

/-- Reads a new task. -/
def NewTask.ofJson? (v : Json) : Option NewTask := do
  match ← record? ["device_id", "time_span", "duration_ms"] v with
  | [some deviceId, some window, some durationMs] =>
    return {
      deviceId := ← word? deviceId
      window := ← Window.ofJson? window
      durationMs := ← word? durationMs }
  | _ => none

/-- An event as an object. -/
def Event.toJson (e : Event) : Json :=
  .object [("id", word e.id), ("task_id", word e.taskId), ("start_time", instant e.start)]

/-- Reads an event. -/
def Event.ofJson? (v : Json) : Option Event := do
  match ← record? ["id", "task_id", "start_time"] v with
  | [some id, some taskId, some start] =>
    return { id := ← word? id, taskId := ← word? taskId, start := ← instant? start }
  | _ => none

/-- A task and its event, or null for the event. -/
def TaskEvent.toJson (te : TaskEvent) : Json :=
  .object [("task", te.task.toJson), ("event", optional Event.toJson te.event)]

/-- A device and its task-events. -/
def DeviceTask.toJson (dt : DeviceTask) : Json :=
  .object [("device", dt.device.toJson), ("task_events", list TaskEvent.toJson dt.taskEvents)]

/-- A state as its name. -/
def DeviceState.toJson (s : DeviceState) : Json :=
  .text s.name

/-- Reads the name of a state. -/
def DeviceState.ofJson? (v : Json) : Option DeviceState := do
  let (name, payload) ← choice? v
  if noPayload payload then
    [DeviceState.inactive, .scheduled, .active].find? (·.name = name)
  else none

/-- A line of the overview with its state. -/
def OverviewLine.toJson (line : OverviewLine) (state : DeviceState) : Json :=
  .object [("device", line.device.toJson), ("task_event", optional TaskEvent.toJson line.run),
    ("state", state.toJson)]

/-! ### Small facts -/

/-- An event is read back from its fields where its start is. -/
theorem Event.ofJson?_toJson (e : Event) (h : instant? (instant e.start) = some e.start) :
    Event.ofJson? e.toJson = some e := by
  simp [Event.ofJson?, Event.toJson, record?, field?, word?_word, h]

end Household
