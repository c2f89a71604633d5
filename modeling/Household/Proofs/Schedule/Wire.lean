import Household.Proofs.Json.Spelling
import Household.Schedule.Wire

/-!
# The Schedule Is Read Back

Windows, tasks, new tasks and events are read back from their texts, and from those of all their
other spellings. Their fields are whole words, instants and, in tasks, a window, which can be
spelled in many ways itself.

## Main results

* `Window.readsBack`, `Task.readsBack`, `NewTask.readsBack`, `Event.readsBack`.
-/

namespace Household

open Json

variable {v : Json}

namespace Window

/-- The value spells the window. -/
def IsSpelled (w : Window) : Json → Prop :=
  Spells [⟨"start", (· = instant w.start)⟩, ⟨"end", (· = instant w.finish)⟩]

/-- A window is written as one of its spellings. -/
theorem isSpelled_toJson (w : Window) : w.IsSpelled w.toJson :=
  .of_forall₂ (.cons ⟨rfl, rfl⟩ (.cons ⟨rfl, rfl⟩ .nil))

/-- A window is found in every spelling. -/
theorem ofJson?_of_isSpelled {w : Window} (h : w.IsSpelled v) : Window.ofJson? v = some w := by
  obtain ⟨values, hrecord, hvalues⟩ :=
    h.exists_record?_eq (show ["start", "end"].Nodup by decide)
  obtain _ | ⟨rfl, _ | ⟨rfl, _ | _⟩⟩ := hvalues
  simp only [List.map_cons, List.map_nil] at hrecord
  simp only [Window.ofJson?, hrecord, Option.bind_eq_bind, Option.bind_some, instant?_instant]
  rfl

/-- A window is properly written. -/
@[simp] theorem isProper_toJson (w : Window) : w.toJson.IsProper := by
  simp [toJson]

/-- **A window is read back from every spelling.** -/
theorem readsBack : ReadsBack Window.toJson Window.ofJson? Window.IsSpelled :=
  .of_isSpelled isSpelled_toJson isProper_toJson fun _ _ => ofJson?_of_isSpelled

end Window

namespace Task

/-- The value spells the task. -/
def IsSpelled (t : Task) : Json → Prop :=
  Spells [⟨"id", (· = word t.id)⟩, ⟨"device_id", (· = word t.deviceId)⟩,
    ⟨"time_span", t.window.IsSpelled⟩, ⟨"duration_ms", (· = word t.durationMs)⟩]

/-- A task is written as one of its spellings. -/
theorem isSpelled_toJson (t : Task) : t.IsSpelled t.toJson :=
  .of_forall₂ (.cons ⟨rfl, rfl⟩ (.cons ⟨rfl, rfl⟩ (.cons ⟨rfl, t.window.isSpelled_toJson⟩
    (.cons ⟨rfl, rfl⟩ .nil))))

/-- A task is found in every spelling. -/
theorem ofJson?_of_isSpelled {t : Task} (h : t.IsSpelled v) : Task.ofJson? v = some t := by
  obtain ⟨values, hrecord, hvalues⟩ :=
    h.exists_record?_eq (show ["id", "device_id", "time_span", "duration_ms"].Nodup by decide)
  obtain _ | ⟨rfl, _ | ⟨rfl, _ | ⟨hwindow, _ | ⟨rfl, _ | _⟩⟩⟩⟩ := hvalues
  simp only [List.map_cons, List.map_nil] at hrecord
  simp only [Task.ofJson?, hrecord, Option.bind_eq_bind, Option.bind_some, word?_word,
    Window.ofJson?_of_isSpelled hwindow]
  rfl

/-- A task is properly written. -/
theorem isProper_toJson (t : Task) : t.toJson.IsProper := by
  simp [toJson]

/-- **A task is read back from every spelling.** -/
theorem readsBack : ReadsBack Task.toJson Task.ofJson? Task.IsSpelled :=
  .of_isSpelled isSpelled_toJson isProper_toJson fun _ _ => ofJson?_of_isSpelled

end Task

namespace NewTask

/-- The value spells the new task. -/
def IsSpelled (t : NewTask) : Json → Prop :=
  Spells [⟨"device_id", (· = word t.deviceId)⟩, ⟨"time_span", t.window.IsSpelled⟩,
    ⟨"duration_ms", (· = word t.durationMs)⟩]

/-- A new task is written as one of its spellings. -/
theorem isSpelled_toJson (t : NewTask) : t.IsSpelled t.toJson :=
  .of_forall₂ (.cons ⟨rfl, rfl⟩ (.cons ⟨rfl, t.window.isSpelled_toJson⟩ (.cons ⟨rfl, rfl⟩ .nil)))

/-- A new task is found in every spelling. -/
theorem ofJson?_of_isSpelled {t : NewTask} (h : t.IsSpelled v) : NewTask.ofJson? v = some t := by
  obtain ⟨values, hrecord, hvalues⟩ :=
    h.exists_record?_eq (show ["device_id", "time_span", "duration_ms"].Nodup by decide)
  obtain _ | ⟨rfl, _ | ⟨hwindow, _ | ⟨rfl, _ | _⟩⟩⟩ := hvalues
  simp only [List.map_cons, List.map_nil] at hrecord
  simp only [NewTask.ofJson?, hrecord, Option.bind_eq_bind, Option.bind_some, word?_word,
    Window.ofJson?_of_isSpelled hwindow]
  rfl

/-- A new task is properly written. -/
theorem isProper_toJson (t : NewTask) : t.toJson.IsProper := by
  simp [toJson]

/-- **A new task is read back from every spelling.** -/
theorem readsBack : ReadsBack NewTask.toJson NewTask.ofJson? NewTask.IsSpelled :=
  .of_isSpelled isSpelled_toJson isProper_toJson fun _ _ => ofJson?_of_isSpelled

end NewTask

namespace Event

/-- The value spells the event. -/
def IsSpelled (e : Event) : Json → Prop :=
  Spells [⟨"id", (· = word e.id)⟩, ⟨"task_id", (· = word e.taskId)⟩,
    ⟨"start_time", (· = instant e.start)⟩]

/-- An event is written as one of its spellings. -/
theorem isSpelled_toJson (e : Event) : e.IsSpelled e.toJson :=
  .of_forall₂ (.cons ⟨rfl, rfl⟩ (.cons ⟨rfl, rfl⟩ (.cons ⟨rfl, rfl⟩ .nil)))

/-- An event is found in every spelling. -/
theorem ofJson?_of_isSpelled {e : Event} (h : e.IsSpelled v) : Event.ofJson? v = some e := by
  obtain ⟨values, hrecord, hvalues⟩ :=
    h.exists_record?_eq (show ["id", "task_id", "start_time"].Nodup by decide)
  obtain _ | ⟨rfl, _ | ⟨rfl, _ | ⟨rfl, _ | _⟩⟩⟩ := hvalues
  simp only [List.map_cons, List.map_nil] at hrecord
  simp only [Event.ofJson?, hrecord, Option.bind_eq_bind, Option.bind_some, word?_word,
    instant?_instant]
  rfl

/-- An event is properly written. -/
theorem isProper_toJson (e : Event) : e.toJson.IsProper := by
  simp [toJson]

/-- **An event is read back from every spelling.** -/
theorem readsBack : ReadsBack Event.toJson Event.ofJson? Event.IsSpelled :=
  .of_isSpelled isSpelled_toJson isProper_toJson fun _ _ => ofJson?_of_isSpelled

end Event

end Household
