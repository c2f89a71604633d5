import Household.Api.Handler
import Household.Proofs.Binary64
import Household.Proofs.Schedule.Wire

/-!
# What Clients Read in an Answer

The histories and the overview are answered as JSON. A client that reads the text of the body finds
every device with its id and name, all tasks with their events, and the states, as they were put
into it. The power of a device is found as the number that is written; which double a client makes
of it is up to the client.

## Main results

* `TaskEvent.ofJson?_toJson`: a task and its event are read back from their value.
* `Reply.tells_history`, `Reply.tells_histories`, `Reply.tells_overview`: what is read in the text
  of the bodies.
-/

namespace Household

open Json

/-! ### Values within values -/

namespace Json

/-- Reads a value that may be null. -/
def nullable? {α : Type} (f : Json → Option α) : Json → Option (Option α)
  | .null => some none
  | v => (f v).map some

/-- A value or null is read back, if a value is and is never written as null. -/
theorem nullable?_optional {α : Type} {toJson : α → Json} {ofJson? : Json → Option α}
    (hread : ∀ a, ofJson? (toJson a) = some a) (hnull : ofJson? .null = none) (o : Option α) :
    nullable? ofJson? (optional toJson o) = some o := by
  cases o with
  | none => rfl
  | some a =>
    have ha := hread a
    rw [optional]
    generalize toJson a = v at ha
    cases v with
    | null => cases hnull.symm.trans ha
    | bool _ | number _ | text _ | array _ | object _ | garbled _ =>
      exact congrArg (Option.map some) ha

/-- A list is read item by item. -/
theorem list?_list {α β : Type} {toJson : α → Json} {ofJson? : Json → Option β} {seen : α → β}
    (hread : ∀ a, ofJson? (toJson a) = some (seen a)) (as : List α) :
    list? ofJson? (list toJson as) = some (as.map seen) :=
  mapM_map_eq_some fun a _ => hread a

/-- A value or null has proper numerals if the value has. -/
theorem isProper_optional {α : Type} {toJson : α → Json} (h : ∀ a, (toJson a).IsProper)
    (o : Option α) : (optional toJson o).IsProper := by
  cases o with
  | none => exact isProper_null
  | some a => exact h a

/-- A list has proper numerals if its items have. -/
theorem isProper_list {α : Type} {toJson : α → Json} (h : ∀ a, (toJson a).IsProper)
    (as : List α) : (list toJson as).IsProper :=
  isProper_array_iff.mpr (List.forall_mem_map.mpr fun a _ => h a)

end Json

/-! ### Tasks, devices and states -/

/-- Reads a task with its event, or null for the event. -/
def TaskEvent.ofJson? (v : Json) : Option TaskEvent := do
  match ← record? ["task", "event"] v with
  | [some task, some event] =>
    return { task := ← Task.ofJson? task, event := ← nullable? Event.ofJson? event }
  | _ => none

/-- A task and its event are read back. -/
theorem TaskEvent.ofJson?_toJson (te : TaskEvent) : TaskEvent.ofJson? te.toJson = some te := by
  have htask := Task.ofJson?_of_isSpelled te.task.isSpelled_toJson
  have hevent := nullable?_optional (fun e => Event.ofJson?_of_isSpelled e.isSpelled_toJson) rfl
    te.event
  simp [TaskEvent.ofJson?, TaskEvent.toJson, record?, field?, htask, hevent]

/-- A task and its event are properly written. -/
@[simp] theorem TaskEvent.isProper_toJson (te : TaskEvent) : te.toJson.IsProper := by
  simp [TaskEvent.toJson, te.task.isProper_toJson, isProper_optional Event.isProper_toJson]

/-- What is read of a device: its id, its name, and its power as it is written. -/
structure SeenDevice where
  id : Int64
  name : String
  power : Text.Numeral
deriving DecidableEq

/-- A device as it is seen. -/
def Device.seen (d : Device) : SeenDevice :=
  ⟨d.id, d.name, d.power.numeral⟩

/-- Reads a device. -/
def SeenDevice.ofJson? (v : Json) : Option SeenDevice := do
  match ← record? ["id", "name", "power_watts"] v with
  | [some id, some name, some (.number power)] =>
    return { id := ← word? id, name := ← text? name, power }
  | _ => none

/-- A device is read as it is seen. -/
theorem SeenDevice.ofJson?_toJson (d : Device) : SeenDevice.ofJson? d.toJson = some d.seen := by
  simp [SeenDevice.ofJson?, Device.toJson, record?, field?, word?_word, text?, double, Device.seen]

/-- A device is properly written. -/
@[simp] theorem Device.isProper_toJson (d : Device) : d.toJson.IsProper := by
  have hpower : (double d.power).IsProper :=
    List.forall_mem_singleton.mpr d.power.isProper_numeral
  simp [Device.toJson, hpower]

/-- A state is read back. -/
theorem DeviceState.ofJson?_toJson (s : DeviceState) : DeviceState.ofJson? s.toJson = some s := by
  cases s <;> decide

/-- A state is properly written. -/
@[simp] theorem DeviceState.isProper_toJson (s : DeviceState) : s.toJson.IsProper :=
  isProper_text _

/-! ### Histories and lines of the overview -/

/-- What is read of a history. -/
structure SeenHistory where
  device : SeenDevice
  taskEvents : List TaskEvent
deriving DecidableEq

/-- A history as it is seen. -/
def DeviceTask.seen (dt : DeviceTask) : SeenHistory :=
  ⟨dt.device.seen, dt.taskEvents⟩

/-- Reads a history. -/
def SeenHistory.ofJson? (v : Json) : Option SeenHistory := do
  match ← record? ["device", "task_events"] v with
  | [some device, some taskEvents] =>
    return {
      device := ← SeenDevice.ofJson? device
      taskEvents := ← list? TaskEvent.ofJson? taskEvents }
  | _ => none

/-- A history is read as it is seen. -/
theorem SeenHistory.ofJson?_toJson (dt : DeviceTask) :
    SeenHistory.ofJson? dt.toJson = some dt.seen := by
  have hdevice := SeenDevice.ofJson?_toJson dt.device
  have htaskEvents := list?_list TaskEvent.ofJson?_toJson dt.taskEvents
  simp [SeenHistory.ofJson?, DeviceTask.toJson, record?, field?, hdevice, htaskEvents,
    DeviceTask.seen]

/-- A history is properly written. -/
theorem DeviceTask.isProper_toJson (dt : DeviceTask) : dt.toJson.IsProper := by
  simp [DeviceTask.toJson, isProper_list TaskEvent.isProper_toJson]

/-- What is read of a line of the overview. -/
structure SeenLine where
  device : SeenDevice
  run : Option TaskEvent
  state : DeviceState
deriving DecidableEq

/-- A line of the overview as it is seen. -/
def OverviewLine.seen (line : OverviewLine) (state : DeviceState) : SeenLine :=
  ⟨line.device.seen, line.run, state⟩

/-- Reads a line of the overview. -/
def SeenLine.ofJson? (v : Json) : Option SeenLine := do
  match ← record? ["device", "task_event", "state"] v with
  | [some device, some run, some state] =>
    return {
      device := ← SeenDevice.ofJson? device
      run := ← nullable? TaskEvent.ofJson? run
      state := ← DeviceState.ofJson? state }
  | _ => none

/-- A line of the overview is read as it is seen. -/
theorem SeenLine.ofJson?_toJson (line : OverviewLine) (state : DeviceState) :
    SeenLine.ofJson? (line.toJson state) = some (line.seen state) := by
  have hdevice := SeenDevice.ofJson?_toJson line.device
  have hrun := nullable?_optional TaskEvent.ofJson?_toJson rfl line.run
  have hstate := DeviceState.ofJson?_toJson state
  simp [SeenLine.ofJson?, OverviewLine.toJson, record?, field?, hdevice, hrun, hstate,
    OverviewLine.seen]

/-- A line of the overview is properly written. -/
theorem OverviewLine.isProper_toJson (line : OverviewLine) (state : DeviceState) :
    (line.toJson state).IsProper := by
  simp [OverviewLine.toJson, isProper_optional TaskEvent.isProper_toJson]

/-! ### Replies -/

namespace Api.Reply

/-- The reply has the status 200 and a JSON body, of which this is read in the text. -/
def Tells {α : Type} (reply : Reply) (ofJson? : Json → Option α) (seen : α) : Prop :=
  ∃ body, reply = .json 200 body ∧ (Json.read? body.written).bind ofJson? = some seen

/-- A value with proper numerals is read in the text of the body. -/
theorem tells_json {α : Type} {body : Json} {ofJson? : Json → Option α} {seen : α}
    (hproper : body.IsProper) (hread : ofJson? body = some seen) :
    (Reply.json 200 body).Tells ofJson? seen :=
  ⟨body, rfl, by rw [Json.read?_written hproper, Option.bind_some, hread]⟩

/-- **A history is read in the text of its body.** -/
theorem tells_history (dt : DeviceTask) :
    (Reply.json 200 dt.toJson).Tells SeenHistory.ofJson? dt.seen :=
  tells_json dt.isProper_toJson (SeenHistory.ofJson?_toJson dt)

/-- **All histories are read in the text of their body.** -/
theorem tells_histories (histories : List DeviceTask) :
    (Reply.json 200 (list DeviceTask.toJson histories)).Tells (list? SeenHistory.ofJson?)
      (histories.map DeviceTask.seen) :=
  tells_json (isProper_list DeviceTask.isProper_toJson histories)
    (list?_list SeenHistory.ofJson?_toJson histories)

/-- **All lines of an overview are read in the text of its body.** -/
theorem tells_overview (lines : List (OverviewLine × DeviceState)) :
    (Reply.json 200 (list (fun (line, state) => OverviewLine.toJson line state) lines)).Tells
      (list? SeenLine.ofJson?) (lines.map fun (line, state) => line.seen state) :=
  tells_json (isProper_list (fun (line, state) => line.isProper_toJson state) lines)
    (list?_list (fun (line, state) => SeenLine.ofJson?_toJson line state) lines)

end Api.Reply

end Household
