import Household.Api.Handler
import Household.Proofs.Instant.Order
import Household.Proofs.Json.Room
import Household.Proofs.Remote.Recording
import Household.Proofs.Schedule.Wire

/-!
# New Tasks Are Forwarded

A new task is read from the body of a request and written anew into the call that posts it to the
scheduling server. Since it is read back from all its spellings, the server gets the task that the
client meant.

## Main results

* `taskOf_of_holds`: the task in a request that spells it.
* `exists_respond_recording`: what is sent for a new task that fits.
* `readsBack_through`: both, with what is known of the other values of the schedule.
-/

namespace Household.Api

open Remote
open Json (ReadsBack)

variable {σ : Type} {r : Request} {v : Json} {t : NewTask}

/-! ### The task in a request -/

/-- The request for a new task. -/
theorem Endpoint.ofRequest?_tasks (contentType : Option String) (body : String) :
    ofRequest? ⟨"POST", "/api/tasks", contentType, body⟩ = some .newTask := by
  have hsegments : pathSegments "/api/tasks" = ["", "api", "tasks"] := by decide
  simp only [ofRequest?, hsegments]

/-- The request has a JSON body with this value, and it is not too long. -/
structure Request.Holds (r : Request) (v : Json) : Prop where
  isJson : ∃ text mediaType, r.contentType = some text ∧
    MediaType.read? text.toList = some mediaType ∧ mediaType.isJson = true
  length : r.body.utf8ByteSize ≤ mostOctets
  body : Json.read? r.body.toList = some v

/-- **The task in a request is the one that its body spells.** -/
theorem taskOf_of_holds (hr : r.Holds v) (ht : t.IsSpelled v) : taskOf r = .ok t := by
  obtain ⟨⟨text, mediaType, htext, hmedia, hjson⟩, hlength, hbody⟩ := hr
  have hsaid : r.isJson = true := by
    rw [Request.isJson, htext, Option.bind_some, hmedia]
    exact hjson
  rw [taskOf, if_neg (by rw [hsaid]; decide), if_neg (Nat.not_lt.mpr hlength), hbody,
    Option.bind_some, NewTask.ofJson?_of_isSpelled ht]

/-! ### The calls for a request -/

/-- The backend whose new tasks are posted by a client of the server. -/
def Backend.through (b : Backend (SessionSlot × σ)) (client : Client)
    (outside : Option Call → σ → Turn × σ) : Backend (SessionSlot × σ) :=
  { b with create := fun task (slot, world) => client.run outside (.createTask task) slot world }

/-- The call posts the task: this is what its body is read as. -/
structure Carries (t : NewTask) (c : Call) : Prop where
  method : c.method = .post
  path : c.path = "/api/tasks"
  body : ∃ text, c.bodyText? = some text ∧
    (Json.read? text.toList).bind NewTask.ofJson? = some t

/-- The call for a new task posts it. -/
theorem carries_of_isOf {c : Call} (h : c.IsOf (.createTask t)) : Carries t c := by
  obtain ⟨token, rfl⟩ := h
  refine ⟨rfl, rfl, _, rfl, ?_⟩
  rw [String.toList_ofList]
  exact NewTask.readsBack.written t

/-- **For a new task that fits, all that is sent are calls that log in and calls that post it.** If
the task is created one of these was sent. The reply tells what came of it. -/
theorem exists_respond_recording (b : Backend (SessionSlot × List Call × σ)) (client : Client)
    (outside : Option Call → σ → Turn × σ) (now : Instant) (slot : SessionSlot) (sent : List Call)
    (world : σ) (hr : Endpoint.ofRequest? r = some .newTask) (ht : taskOf r = .ok t)
    (hfits : t.validate = .ok ()) :
    let final := client.run outside (.createTask t) slot world
    ∃ calls : List Call,
      respond (b.through client (recording outside)) now r (slot, sent, world) =
        (.ok (createdReply final.1), final.2.1, sent ++ calls, final.2.2) ∧
      (∀ c ∈ calls, c.isLogin = true ∨ Carries t c) ∧
      ∀ task, final.1 = .ok task → ∃ c ∈ calls, Carries t c := by
  intro final
  obtain ⟨calls, hrun, hcalls, hcreated⟩ :=
    exists_run_recording client outside (.createTask t) slot sent world
  refine ⟨calls, ?_, fun c hc => (hcalls c hc).imp_right carries_of_isOf, fun task htask => ?_⟩
  · simp only [respond, hr, ht, hfits, Backend.through, hrun]
    rfl
  · obtain ⟨c, hc, hown⟩ := hcreated task htask
    exact ⟨c, hc, carries_of_isOf hown⟩

/-- **The schedule is read back, and so the server gets the task that the client meant**:

* windows, tasks, new tasks and events are read back from their texts and from those of all their
  other spellings;
* a request that spells a new task is read as this task;
* if the task fits, all that is sent for it are calls that log in and calls that post it, and one of
  these was sent if it is created. -/
theorem readsBack_through (b : Backend (SessionSlot × List Call × σ)) (client : Client)
    (outside : Option Call → σ → Turn × σ) (now : Instant) (slot : SessionSlot) (sent : List Call)
    (world : σ) :
    ReadsBack Window.toJson Window.ofJson? Window.IsSpelled ∧
      ReadsBack Task.toJson Task.ofJson? Task.IsSpelled ∧
      ReadsBack NewTask.toJson NewTask.ofJson? NewTask.IsSpelled ∧
      ReadsBack Event.toJson Event.ofJson? Event.IsSpelled ∧
      (∀ (r : Request) (v : Json) (t : NewTask), r.Holds v → t.IsSpelled v →
        taskOf r = .ok t) ∧
      ∀ (r : Request) (t : NewTask), Endpoint.ofRequest? r = some .newTask →
        taskOf r = .ok t → t.validate = .ok () →
          let final := client.run outside (.createTask t) slot world
          ∃ calls : List Call,
            respond (b.through client (recording outside)) now r (slot, sent, world) =
              (.ok (createdReply final.1), final.2.1, sent ++ calls, final.2.2) ∧
            (∀ c ∈ calls, c.isLogin = true ∨ Carries t c) ∧
            ∀ task, final.1 = .ok task → ∃ c ∈ calls, Carries t c :=
  ⟨Window.readsBack, Task.readsBack, NewTask.readsBack, Event.readsBack,
    fun _ _ _ hr ht => taskOf_of_holds hr ht,
    fun _ _ hr ht hfits =>
      exists_respond_recording b client outside now slot sent world hr ht hfits⟩

/-! ### A far task -/

/-- The last instant, in a leap second. -/
def lastInstant : Instant :=
  { lastLeap with
    nano := 1999999999
    nano_lt := by decide
    leap_last := by decide }

/-- A task of a millisecond until the end of time, for the device with the least id. -/
def farTask : NewTask where
  deviceId := Int64.minValue
  window := ⟨.epoch, lastInstant⟩
  durationMs := 1

/-- Its fields in another order, with one more among them and the window as an array. -/
def farSpelling : Json :=
  .object [("note", .object [("duration_ms", .null)]), ("duration_ms", .word 1),
    ("time_span", .array [.instant .epoch, .instant lastInstant]),
    ("device_id", .word Int64.minValue)]

/-- A request with this body. -/
def farRequest : Request :=
  ⟨"POST", "/api/tasks", some "application/json; charset=utf-8", String.ofList farSpelling.written⟩

/-- The task is spelled so. -/
theorem farTask_isSpelled : farTask.IsSpelled farSpelling := by
  have hperm : List.Perm
      [("note", .object [("duration_ms", .null)]), ("duration_ms", .word 1),
        ("time_span", .array [.instant .epoch, .instant lastInstant]),
        ("device_id", .word Int64.minValue)]
      ([("device_id", .word farTask.deviceId),
          ("time_span", .array [.instant .epoch, .instant lastInstant]),
          ("duration_ms", .word farTask.durationMs)] ++
        [("note", Json.object [("duration_ms", .null)])]) :=
    List.reverse_perm [_, _, _, _]
  exact .object hperm (.cons ⟨rfl, rfl⟩
    (.cons ⟨rfl, .array (.cons rfl (.cons rfl .nil))⟩ (.cons ⟨rfl, rfl⟩ .nil))) (by decide)

/-- The request holds it. -/
theorem farRequest_holds : farRequest.Holds farSpelling where
  isJson := ⟨_, _, rfl, rfl, by decide⟩
  length := by
    have hlength : farSpelling.written.length ≤ 1000 := by decide +kernel
    have hoctets := utf8ByteSize_ofList_le farSpelling.written
    rw [farRequest, mostOctets]
    exact hoctets.trans (by omega)
  body := by
    rw [farRequest, String.toList_ofList]
    exact Json.read?_written (by simp [farSpelling])

/-- The task as the server creates it. -/
def createdTask : Task where
  id := 7
  deviceId := farTask.deviceId
  window := farTask.window
  durationMs := farTask.durationMs

/-- A server that lets everybody in and answers every other call with the created task. -/
def creating (call? : Option Call) (_ : Unit) : Turn × Unit :=
  let answer := match call? with
    | some call =>
      if call.isLogin then granted firstToken
      else .reply 201 ("[7,-9223372036854775808," ++
        "[\"1970-01-01T00:00:00Z\",\"+262142-12-31T23:59:60.999999999Z\"],1]")
    | none => .unreachable
  (⟨.epoch, answer⟩, ())

/-- A backend without histories and alarms. -/
def emptyBackend {σ : Type} : Backend σ where
  histories _ := .ok []
  create _ s := (.error .notAuthenticated, s)
  alarms _ := .ok []

/-- The far task is created, by a call that posts it. -/
theorem readsBack_through_farRequest :
    Endpoint.ofRequest? farRequest = some .newTask ∧ taskOf farRequest = .ok farTask ∧
      farTask.validate = .ok () ∧
      ∃ slot' calls world',
        respond (emptyBackend.through visitor (recording creating)) .epoch farRequest
            (.file none, [], ()) =
          (.ok (.json 201 createdTask.toJson), slot', calls, world') ∧
        ∃ c ∈ calls, Carries farTask c := by
  obtain ⟨-, -, -, -, hheld, hsent⟩ :=
    readsBack_through emptyBackend visitor creating .epoch (.file none) [] ()
  have hr : Endpoint.ofRequest? farRequest = some .newTask := Endpoint.ofRequest?_tasks _ _
  have ht : taskOf farRequest = .ok farTask := hheld _ _ _ farRequest_holds farTask_isSpelled
  have hfits : farTask.validate = .ok () := by decide
  have hrun : (visitor.run creating (.createTask farTask) (.file none) ()).1 = .ok createdTask := by
    decide +kernel
  obtain ⟨calls, hrespond, -, hcreated⟩ := hsent _ _ hr ht hfits
  rw [hrun, createdReply, List.nil_append] at hrespond
  exact ⟨hr, ht, hfits, _, calls, _, hrespond, hcreated createdTask hrun⟩

end Household.Api
