import Household.Proofs.Api.Telling
import Household.Proofs.Schedule.Joining
import Household.Proofs.Text.Words
import Mathlib.Data.List.TakeWhile

/-!
# What Clients Are Told of One Device

Whoever asks for the history of a device by its id is shown the first entry of all histories that
has this id. When several devices have it, one of them has taken all tasks, and the others have
none. It is the one that is shown: what comes first by name takes the tasks, and is found first.

## Main results

* `Endpoint.ofRequest?_history`: the requests for the history of a device.
* `IsShown.tasks_perm`, `IsShown.taskEvents_eq_nil`: the entry that is shown has all tasks of the
  id, and the others of the id have none.
* `respond_history`: what is answered, for every id.
-/

namespace Household

/-! ### The entry that is shown -/

namespace History

variable {devices : List Device} {tasks : List Task} {events : List Event} {id : Int64}
  {histories : List DeviceTask} {shown other : DeviceTask}

/-- The entry is the first one with this id. -/
structure IsShown (histories : List DeviceTask) (id : Int64) (shown : DeviceTask) : Prop where
  id_eq : shown.device.id = id
  first : ∃ before after, histories = before ++ shown :: after ∧
    ∀ dt ∈ before, dt.device.id ≠ id

/-- The search for an id finds the first entry with it. -/
theorem find?_eq_some_iff_isShown :
    histories.find? (·.device.id = id) = some shown ↔ IsShown histories id shown := by
  rw [List.find?_eq_some_iff_append]
  simp only [decide_eq_true_eq, Bool.not_eq_eq_eq_not, Bool.not_true, decide_eq_false_iff_not]
  exact ⟨fun h => ⟨h.1, h.2⟩, fun h => ⟨h.id_eq, h.first⟩⟩

/-- Every task is paired with something, and none is left out. -/
theorem map_task_paired (tasks : List Task) (events : List Event) :
    (paired tasks events).map (·.task) = tasks := by
  rw [← attach_eventsByTask, map_task_attach]

/-- The tasks of a device are the listed tasks that name it. -/
theorem map_task_ownOf (tasks : List Task) (events : List Event) (id : Int64) :
    (ownOf tasks events id).map (·.task) = tasks.filter (·.deviceId = id) := by
  conv_rhs => rw [← map_task_paired tasks events, List.filter_map]
  rfl

namespace IsShown

/-- **The entry that is shown has every task of the id once**, and no other task. -/
theorem tasks_perm (h : IsShown (join devices tasks events) id shown) :
    (shown.taskEvents.map (·.task)).Perm (tasks.filter (·.deviceId = id)) := by
  obtain ⟨rfl, before, after, hsplit, hbefore⟩ := h
  have hplace : (join devices tasks events)[before.length]? = some shown := by
    rw [hsplit, List.getElem?_append_right (Nat.le_refl _), Nat.sub_self, List.getElem?_cons_zero]
  have hfirst : shown.device.id ∉
      ((join devices tasks events).take before.length).map (·.device.id) := by
    rw [hsplit, List.take_left]
    intro hmem
    obtain ⟨dt, hdt, hid⟩ := List.mem_map.mp hmem
    exact hbefore dt hdt hid
  have hsorted := (isJoin_join devices tasks events).own _ _ hplace hfirst
  rw [← map_task_ownOf tasks events]
  exact hsorted.perm.map _

/-- **The other entries of the id have no tasks.** -/
theorem taskEvents_eq_nil (h : IsShown (join devices tasks events) id shown)
    (hmem : other ∈ join devices tasks events) (hid : other.device.id = id) :
    other = shown ∨ other.taskEvents = [] := by
  obtain ⟨hshown, before, after, hsplit, hbefore⟩ := h
  rw [hsplit, List.mem_append, List.mem_cons] at hmem
  rcases hmem with hmem | rfl | hmem
  · exact absurd hid (hbefore other hmem)
  · exact .inl rfl
  · obtain ⟨between, rest, rfl⟩ := List.append_of_mem hmem
    refine .inr ((isJoin_join devices tasks events).repeated
      (before ++ shown :: between).length other ?_ ?_)
    · rw [hsplit, ← List.cons_append, ← List.append_assoc,
        List.getElem?_append_right (Nat.le_refl _), Nat.sub_self, List.getElem?_cons_zero]
    · rw [hsplit, ← List.cons_append, ← List.append_assoc, List.take_left, hid, ← hshown]
      exact List.mem_map_of_mem (List.mem_append_right _ List.mem_cons_self)

end IsShown

/-- An id is found among the histories exactly if a listed device has it. -/
theorem exists_isShown_iff :
    (∃ shown, IsShown (join devices tasks events) id shown) ↔ ∃ d ∈ devices, d.id = id := by
  have hperm := perm_map_device_join devices tasks events
  simp only [← find?_eq_some_iff_isShown, ← Option.isSome_iff_exists, List.find?_isSome,
    decide_eq_true_eq, ← hperm.mem_iff, List.mem_map]
  constructor
  · rintro ⟨dt, hdt, hid⟩
    exact ⟨dt.device, ⟨dt, hdt, rfl⟩, hid⟩
  · rintro ⟨d, ⟨dt, hdt, rfl⟩, hid⟩
    exact ⟨dt, hdt, hid⟩

end History

/-! ### Requests and replies -/

namespace Api

open History Text

variable {devices : List Device} {tasks : List Task} {events : List Event} {id : Int64}

/-- The status of a reply. -/
def Reply.status : Reply → Nat
  | .json status _ => status
  | .text status _ => status
  | .bare status => status

/-- The path of the history of a device, with its id as it is written. -/
def historyPath (id : List Char) : String :=
  "/api/devices/" ++ String.ofList id ++ "/tasks"

namespace Endpoint

/-- The characters of the path. -/
theorem toList_historyPath (cs : List Char) :
    (historyPath cs).toList =
      [] ++ '/' :: (['a', 'p', 'i'] ++ '/' :: (['d', 'e', 'v', 'i', 'c', 'e', 's'] ++ '/' ::
        (cs ++ '/' :: ['t', 'a', 's', 'k', 's']))) := by
  rw [historyPath, String.toList_append, String.toList_append, List.append_assoc]
  simp only [String.toList_ofList]
  rfl

/-- The characters of a number separate nothing in a path, and none of them is encoded. -/
theorem isPlain_of_denotes {cs : List Char} {n : Int} (h : Denotes cs n) :
    ∀ c ∈ cs, c ∉ ['?', '#', '%', '/'] := by
  intro c hc hmem
  have hno : ∀ d ∈ ['?', '#', '%', '/'], ¬ (d.isDigit = true ∨ d = '+' ∨ d = '-') := by simp
  exact hno c hmem (h.isDigit_or_isSign c hc)

/-- The segments of the path. -/
theorem pathSegments_historyPath {cs : List Char} {n : Int} (h : Denotes cs n) :
    pathSegments (historyPath cs) = ["", "api", "devices", String.ofList cs, "tasks"] := by
  have hplain : ∀ c ∈ (historyPath cs).toList, c ∉ ['?', '#', '%'] := by
    have hid : ∀ c ∈ cs, c ∉ ['?', '#', '%'] := fun c hc hmem =>
      isPlain_of_denotes h c hc (List.mem_append_left ['/'] hmem)
    rw [toList_historyPath]
    simp only [List.forall_mem_append, List.forall_mem_cons]
    exact ⟨by simp, by decide, by simp, by decide, by simp, by decide, hid, by decide, by simp⟩
  have horigin : withoutOrigin (historyPath cs).toList = (historyPath cs).toList := by
    rw [toList_historyPath]
    exact withoutOrigin_slash _
  have hquery : withoutQuery (historyPath cs).toList = (historyPath cs).toList := by
    refine List.takeWhile_eq_self_iff.mpr fun c hc => ?_
    have hc := hplain c hc
    simp only [List.mem_cons, not_or] at hc
    simp [hc.1, hc.2.1]
  have hencoded : '%' ∉ (historyPath cs).toList := fun hc => hplain '%' hc (by decide)
  have hseparator : ∀ c ∈ cs, decide (c = '/') = false := fun c hc =>
    decide_eq_false fun heq => isPlain_of_denotes h c hc (by simp [heq])
  rw [pathSegments]
  simp only [horigin, hquery, percentDecode_of_not_mem stayEncoded hencoded]
  rw [toList_historyPath, splitAt_append_cons (by simp) (by decide),
    splitAt_append_cons (by simp) (by decide), splitAt_append_cons (by simp) (by decide),
    splitAt_append_cons hseparator (by decide), splitAt_of_forall (by simp)]
  rfl

/-- **The request for the history of a device**, however its id is written. -/
theorem ofRequest?_history {cs : List Char} (h : Denotes cs id.toInt)
    (contentType : Option String) (body : String) :
    ofRequest? ⟨"GET", historyPath cs, contentType, body⟩ = some (.history (some id)) := by
  have hne : String.ofList cs ≠ "" := by
    intro hnil
    exact h.ne_nil (by simpa using congrArg String.toList hnil)
  have hencoded : '%' ∉ cs := fun hc => isPlain_of_denotes h '%' hc (by decide)
  simp only [ofRequest?, pathSegments_historyPath h, if_neg hne, id?, String.toList_ofList,
    percentDecode_of_not_mem [] hencoded, readWord?_eq_some_iff.mpr h]

/-- The request for all histories. -/
theorem ofRequest?_histories (contentType : Option String) (body : String) :
    ofRequest? ⟨"GET", "/api/devices/tasks", contentType, body⟩ = some .histories := by
  have hsegments : pathSegments "/api/devices/tasks" = ["", "api", "devices", "tasks"] := by decide
  simp only [ofRequest?, hsegments]

end Endpoint

/-! ### What is answered -/

section Respond

variable {σ : Type} {b : Backend σ} {s : σ} {r : Request}

/-- All histories are answered as they are joined. -/
theorem respond_of_histories (now : Instant) (hr : Endpoint.ofRequest? r = some .histories)
    (hserved : b.histories s = .ok (join devices tasks events)) :
    respond b now r s =
      (.ok (.json 200 (Json.list DeviceTask.toJson (join devices tasks events))), s) := by
  simp only [respond, hr, hserved, fromHistories, historiesReply]

/-- The history of an id that is found is answered as the entry that is shown. -/
theorem respond_of_isShown (now : Instant) (hr : Endpoint.ofRequest? r = some (.history (some id)))
    (hserved : b.histories s = .ok (join devices tasks events)) {shown : DeviceTask}
    (h : IsShown (join devices tasks events) id shown) :
    respond b now r s = (.ok (.json 200 shown.toJson), s) := by
  simp only [respond, hr, hserved, fromHistories, historyReply, find?_eq_some_iff_isShown.mpr h]

/-- There is no history of an id that is not found. -/
theorem respond_of_not_isShown (now : Instant)
    (hr : Endpoint.ofRequest? r = some (.history (some id)))
    (hserved : b.histories s = .ok (join devices tasks events))
    (h : ¬ ∃ shown, IsShown (join devices tasks events) id shown) :
    respond b now r s = (.ok (.text 404 "Device not found"), s) := by
  have hnone : (join devices tasks events).find? (·.device.id = id) = none := by
    refine Option.eq_none_iff_forall_ne_some.mpr fun shown hshown => h ⟨shown, ?_⟩
    exact find?_eq_some_iff_isShown.mp hshown
  simp only [respond, hr, hserved, fromHistories, historyReply, hnone]

/-- **Whoever asks for the history of a device is shown all of it**, also where several devices
have its id:

* every number that is an id can be asked for, however it is written;
* the reply has the status 404 exactly if no served device has the id, and then says so;
* otherwise it is the first entry with this id of all histories, as they are answered for the same
  lists; this entry has every served task of the id once and no other task, and every other entry
  of the id has none;
* whoever reads the texts of these bodies finds the devices, tasks and events in them. -/
theorem respond_history (now : Instant)
    (hserved : b.histories s = .ok (join devices tasks events)) (id : Int64) :
    (∀ cs, Denotes cs id.toInt → ∀ contentType body,
      Endpoint.ofRequest? ⟨"GET", historyPath cs, contentType, body⟩ =
        some (.history (some id))) ∧
      Denotes (signed id.toInt) id.toInt ∧
      ∀ r r' : Request, Endpoint.ofRequest? r = some (.history (some id)) →
        Endpoint.ofRequest? r' = some .histories →
          respond b now r' s =
            (.ok (.json 200 (Json.list DeviceTask.toJson (join devices tasks events))), s) ∧
          (Reply.json 200 (Json.list DeviceTask.toJson (join devices tasks events))).Tells
            (Json.list? SeenHistory.ofJson?) ((join devices tasks events).map DeviceTask.seen) ∧
          ∃ reply, respond b now r s = (.ok reply, s) ∧
            (reply.status = 404 ↔ ∀ d ∈ devices, d.id ≠ id) ∧
            (reply.status = 404 → reply = .text 404 "Device not found") ∧
            (reply.status ≠ 404 → ∃ shown, IsShown (join devices tasks events) id shown ∧
              reply = .json 200 shown.toJson ∧ reply.Tells SeenHistory.ofJson? shown.seen ∧
              (shown.taskEvents.map (·.task)).Perm (tasks.filter (·.deviceId = id)) ∧
              ∀ other ∈ join devices tasks events, other.device.id = id →
                other = shown ∨ other.taskEvents = []) := by
  refine ⟨fun cs hcs => Endpoint.ofRequest?_history hcs, denotes_signed id.toInt,
    fun r r' hr hr' => ⟨respond_of_histories now hr' hserved, Reply.tells_histories _, ?_⟩⟩
  by_cases hfound : ∃ shown, IsShown (join devices tasks events) id shown
  · obtain ⟨shown, hshown⟩ := hfound
    obtain ⟨d, hd, hid⟩ := exists_isShown_iff.mp ⟨shown, hshown⟩
    have hok : ¬ (Reply.json 200 shown.toJson).status = 404 := by simp [Reply.status]
    exact ⟨_, respond_of_isShown now hr hserved hshown, iff_of_false hok fun h => h d hd hid,
      fun h => absurd h hok, fun _ => ⟨shown, hshown, rfl, Reply.tells_history shown,
        hshown.tasks_perm, fun other hmem => hshown.taskEvents_eq_nil hmem⟩⟩
  · refine ⟨_, respond_of_not_isShown now hr hserved hfound, iff_of_true rfl fun d hd hid => ?_,
      fun _ => rfl, fun h => absurd rfl h⟩
    exact hfound (exists_isShown_iff.mpr ⟨d, hd, hid⟩)

end Respond

/-! ### Two devices of one id -/

/-- Two devices have the id 1, and the one that is second by name is listed first. -/
def twinDevices : List Device :=
  [⟨1, "Washer", .zero⟩, ⟨1, "Dryer", .zero⟩]

/-- Their task. -/
def twinTask : Task :=
  ⟨10, 1, ⟨.epoch, .epoch⟩, 300000⟩

/-- A program that serves them. -/
def twinBackend : Backend Unit where
  histories _ := .ok (join twinDevices [twinTask] [])
  create _ s := (.error .notAuthenticated, s)
  alarms _ := .ok []

/-- The dryer comes first by name, and has the task. -/
theorem join_twins : join twinDevices [twinTask] [] =
    [⟨⟨1, "Dryer", .zero⟩, [⟨twinTask, none⟩]⟩, ⟨⟨1, "Washer", .zero⟩, []⟩] := by
  have hsort : sortDevices twinDevices = [⟨1, "Dryer", .zero⟩, ⟨1, "Washer", .zero⟩] := by
    simp [sortDevices, twinDevices, List.mergeSort]
  rw [join_eq_mapIdx, hsort]
  simp [ownOf, paired, twinTask, picked?, sort]

/-- The dryer is shown, with its task. -/
theorem respond_history_twins :
    twinBackend.histories () = .ok (join twinDevices [twinTask] []) ∧
      ∃ reply, respond twinBackend .epoch ⟨"GET", historyPath ['1'], none, ""⟩ () =
          (.ok reply, ()) ∧
        reply = .json 200 (DeviceTask.toJson ⟨⟨1, "Dryer", .zero⟩, [⟨twinTask, none⟩]⟩) ∧
        reply.Tells SeenHistory.ofJson?
          ⟨Device.seen ⟨1, "Dryer", .zero⟩, [⟨twinTask, none⟩]⟩ := by
  have hserved : twinBackend.histories () = .ok (join twinDevices [twinTask] []) := rfl
  obtain ⟨hpath, -, hreply⟩ := respond_history Instant.epoch hserved 1
  have hone : Denotes ['1'] (1 : Int64).toInt :=
    .plain (List.cons_ne_nil _ _) (List.forall_mem_singleton.mpr rfl)
  have hr := hpath ['1'] hone none ""
  obtain ⟨-, -, reply, hrespond, hstatus, -, hshown⟩ :=
    hreply _ _ hr (Endpoint.ofRequest?_histories none "")
  have hfound : ¬ ∀ d ∈ twinDevices, d.id ≠ 1 := by decide
  obtain ⟨shown, hfirst, rfl, htells, -, -⟩ := hshown (mt hstatus.mp hfound)
  rw [← find?_eq_some_iff_isShown, join_twins] at hfirst
  obtain rfl := Option.some.inj hfirst
  exact ⟨hserved, _, hrespond, rfl, htells⟩

end Api

end Household
