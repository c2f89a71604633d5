import Household.Proofs.Api.Forwarding
import Household.Proofs.Schedule.Fitting

/-!
# New Tasks Are Asked For Once

Whoever writes new tasks is asked to create a task exactly if it fits its window, and then once and
for the very task that the client has sent. A task that does not fit is answered here, with what is
wrong about it, and nobody else hears of it. Every task can be sent.

## Main results

* `respond_noting_of_fits`, `respond_noting_of_not_fits`, `respond_noting_of_fault`: what a request
  for a new task leads to.
* `creates_iff_fits`: that and the check of the task, for every window outside leap seconds.
-/

namespace Household.Api

variable {σ : Type}

/-- The backend with a record of the tasks that it is asked to create, the first one first. -/
def Backend.noting (b : Backend σ) : Backend (List NewTask × σ) where
  histories s := b.histories s.2
  create t s :=
    let (created, after) := b.create t s.2
    (created, s.1 ++ [t], after)
  alarms s := b.alarms s.2

/-- The request that sends a new task. -/
def requestFor (t : NewTask) : Request :=
  ⟨"POST", "/api/tasks", some "application/json", String.ofList t.toJson.written⟩

/-- A new task is written in up to a thousand characters. -/
theorem length_written_toJson_le (t : NewTask) : t.toJson.written.length ≤ 1000 := by
  have hdevice := Json.length_written_word_le t.deviceId
  have hduration := Json.length_written_word_le t.durationMs
  have hstart := Json.length_written_instant_le t.window.start
  have hfinish := Json.length_written_instant_le t.window.finish
  have hname := Json.length_written_text_le
  have hdeviceName : (Json.text "device_id").written.length ≤ 56 := hname "device_id"
  have hspanName : (Json.text "time_span").written.length ≤ 56 := hname "time_span"
  have hdurationName : (Json.text "duration_ms").written.length ≤ 68 := hname "duration_ms"
  have hstartName : (Json.text "start").written.length ≤ 32 := hname "start"
  have hfinishName : (Json.text "end").written.length ≤ 20 := hname "end"
  rw [NewTask.toJson, Window.toJson, Json.length_written_object_cons,
    Json.length_written_object_cons, Json.length_written_object_singleton,
    Json.length_written_object_cons, Json.length_written_object_singleton]
  omega

/-- It holds the task as JSON. -/
theorem requestFor_holds (t : NewTask) : (requestFor t).Holds t.toJson where
  isJson := ⟨_, _, rfl, rfl, by decide⟩
  length := by
    have hlength := length_written_toJson_le t
    have hoctets := utf8ByteSize_ofList_le t.toJson.written
    rw [requestFor, mostOctets]
    exact hoctets.trans (by omega)
  body := by
    rw [requestFor, String.toList_ofList]
    exact Json.read?_written t.isProper_toJson

/-- Every task can be sent. -/
theorem exists_request (t : NewTask) :
    ∃ r, Endpoint.ofRequest? r = some .newTask ∧ taskOf r = .ok t :=
  ⟨requestFor t, Endpoint.ofRequest?_tasks _ _,
    taskOf_of_holds (requestFor_holds t) t.isSpelled_toJson⟩

variable {r : Request} {t : NewTask}

/-- **A task that fits is asked for once**, and the reply tells what came of it. -/
theorem respond_noting_of_fits (b : Backend σ) (now : Instant) (asked : List NewTask) (s : σ)
    (hr : Endpoint.ofRequest? r = some .newTask) (ht : taskOf r = .ok t)
    (hfits : t.validate = .ok ()) :
    respond b.noting now r (asked, s) =
      (.ok (createdReply (b.create t s).1), asked ++ [t], (b.create t s).2) := by
  simp only [respond, hr, ht, hfits]
  rfl

/-- **A task that is refused is not asked for.** -/
theorem respond_noting_of_not_fits (b : Backend σ) (now : Instant) (asked : List NewTask) (s : σ)
    (hr : Endpoint.ofRequest? r = some .newTask) (ht : taskOf r = .ok t)
    (hfits : t.validate ≠ .ok ()) :
    ∃ e, t.validate = .error e ∧
      respond b.noting now r (asked, s) = (.ok (.text 400 e.message), asked, s) := by
  cases hverdict : t.validate with
  | ok u => exact absurd hverdict hfits
  | error e => exact ⟨e, rfl, respond_newTask_of_refused b.noting now _ hr ht hverdict⟩

/-- A body is too long exactly if it is said to be JSON and has more octets than a body may have. -/
theorem taskOf_eq_tooLong_iff :
    taskOf r = .error .tooLong ↔ r.isJson = true ∧ mostOctets < r.body.utf8ByteSize := by
  rw [taskOf]
  split
  · next hno => simp [hno]
  · next hsaid =>
    rw [Bool.not_eq_false] at hsaid
    split
    · next hlong => exact iff_of_true rfl ⟨hsaid, hlong⟩
    · next hshort =>
      refine iff_of_false ?_ fun h => hshort h.2
      split <;> simp

/-- **Without a task nothing is asked for**, and the reply has the status of what is amiss. -/
theorem respond_noting_of_fault (b : Backend σ) (now : Instant) (asked : List NewTask) (s : σ)
    (hr : Endpoint.ofRequest? r = some .newTask) {fault : BodyFault}
    (hfault : taskOf r = .error fault) :
    respond b.noting now r (asked, s) = (.ok (.bare fault.status), asked, s) := by
  simp only [respond, hr, hfault]

/-- **Only tasks that fit are forwarded, and all of them are**, whatever the task, if its window
begins and ends outside leap seconds:

* the task is accepted exactly if it fits, and otherwise the first of three reasons is named;
* the length of its window is a span and, in whole milliseconds, a 64-bit word, so that the check
  always comes to an end;
* if it is accepted, its run has an end within the window;
* there is a request for it, and for every request for it whoever writes new tasks is asked once
  for this very task if it fits, and otherwise not at all, and the reply has the status 400;
* nobody is asked for anything if there is no task in the body of a request, or if the body is too
  long to be read. -/
theorem creates_iff_fits (h : t.window.IsPlain) :
    t.IsJudged t.validate ∧
      (-Span.maxMillis * Span.perMilli ≤ t.window.length.nanos ∧
        t.window.length.nanos ≤ Span.maxMillis * Span.perMilli) ∧
      (∃ ms : Int64, ms.toInt = t.window.length.millis) ∧
      (t.Fits → ∀ id, ∃ d finish, (t.withId id).duration = .ok d ∧
        t.window.start.add d = .ok finish ∧ finish ≤ t.window.finish) ∧
      (∃ r, Endpoint.ofRequest? r = some .newTask ∧ taskOf r = .ok t) ∧
      ∀ (σ : Type) (b : Backend σ) (now : Instant) (r : Request) (asked : List NewTask) (s : σ),
        Endpoint.ofRequest? r = some .newTask →
          (taskOf r = .ok t →
            (t.Fits → respond b.noting now r (asked, s) =
              (.ok (createdReply (b.create t s).1), asked ++ [t], (b.create t s).2)) ∧
            (¬ t.Fits → ∃ e, t.validate = .error e ∧
              respond b.noting now r (asked, s) = (.ok (.text 400 e.message), asked, s))) ∧
          ∀ fault, taskOf r = .error fault →
            respond b.noting now r (asked, s) = (.ok (.bare fault.status), asked, s) ∧
              (fault = .tooLong ↔ r.isJson = true ∧ mostOctets < r.body.utf8ByteSize) := by
  have hjudged := NewTask.isJudged_validate h
  refine ⟨hjudged, t.window.length_inRange, t.window.exists_toInt_eq_millis,
    fun hfits id => hfits.exists_finish h id, exists_request t,
    fun σ b now r asked s hr => ⟨fun ht => ⟨fun hfits => ?_, fun hfits => ?_⟩,
      fun fault hfault => ⟨respond_noting_of_fault b now asked s hr hfault, ?_⟩⟩⟩
  · exact respond_noting_of_fits b now asked s hr ht (hjudged.ok_iff.mpr hfits)
  · exact respond_noting_of_not_fits b now asked s hr ht (mt hjudged.ok_iff.mp hfits)
  · rw [← taskOf_eq_tooLong_iff, hfault, Except.error.injEq]

/-! ### A window of nearly two milliseconds -/

/-- One nanosecond less than two milliseconds after the epoch. -/
def nearlyTwoMillis : Instant :=
  { Instant.epoch with
    nano := 1999999
    nano_lt := by decide
    leap_last := by decide }

/-- A task of some milliseconds up to then. -/
def shortTask (durationMs : Int64) : NewTask :=
  ⟨1, ⟨.epoch, nearlyTwoMillis⟩, durationMs⟩

/-- One millisecond fits, and is asked for; two do not fit in what counts as one. -/
theorem creates_iff_fits_nearlyTwoMillis :
    (∀ durationMs, (shortTask durationMs).window.IsPlain) ∧ (shortTask 1).Fits ∧
      respond emptyBackend.noting .epoch (requestFor (shortTask 1)) ([], ()) =
        (.ok (createdReply (.error .notAuthenticated)), [shortTask 1], ()) ∧
      (shortTask 2).validate = .error (.durationExceedsWindow 2 1) ∧
      respond emptyBackend.noting .epoch (requestFor (shortTask 2)) ([], ()) =
        (.ok (.text 400 (TaskFault.durationExceedsWindow 2 1).message), [], ()) := by
  have hplain (durationMs : Int64) : (shortTask durationMs).window.IsPlain := ⟨rfl, rfl⟩
  have hfits : (shortTask 1).Fits := by decide
  have hlong : ¬ (shortTask 2).Fits := by decide
  have hread (durationMs : Int64) :
      taskOf (requestFor (shortTask durationMs)) = .ok (shortTask durationMs) :=
    taskOf_of_holds (requestFor_holds _) (NewTask.isSpelled_toJson _)
  have hcreate := creates_iff_fits (hplain 1)
  obtain ⟨hjudged, -, -, -, -, hrefuse⟩ := creates_iff_fits (hplain 2)
  have hverdict : (shortTask 2).validate = .error (.durationExceedsWindow 2 1) :=
    (hjudged.durationExceedsWindow_iff 2 1).mpr (by decide)
  obtain ⟨e, he, hrespond⟩ := ((hrefuse Unit emptyBackend .epoch _ [] ()
    (Endpoint.ofRequest?_tasks _ _)).1 (hread 2)).2 hlong
  obtain rfl := Except.error.inj (he.symm.trans hverdict)
  exact ⟨hplain, hfits, ((hcreate.2.2.2.2.2 Unit emptyBackend .epoch _ [] ()
    (Endpoint.ofRequest?_tasks _ _)).1 (hread 1)).1 hfits, hverdict, hrespond⟩

end Household.Api
