import Household.Alarm.Store
import Household.Alarm.Wire
import Household.Api.Endpoint
import Household.Api.MediaType
import Household.Remote.Served
import Household.Schedule.Wire

/-!
# Answers to Clients

A request is answered from the scheduling server and the store of alarms. A new task is checked here
and forwarded only if it fits its window; a body of more than two mebibytes is not even read.
Failures of the server are told apart by status: it does not know the program, or it cannot be
reached.

## Main results

* `respond_newTask_of_refused`: a task that does not fit is not forwarded.
-/

namespace Household.Api

/-- A reply: a status with a JSON body, with a plain text, or with a body that is not specified. -/
inductive Reply
  | json (status : Nat) (body : Json)
  | text (status : Nat) (body : String)
  | bare (status : Nat)

/-- What requests are answered from: the histories, the writing of a new task and the stored alarms,
as functions on the state of the world outside. -/
structure Backend (σ : Type) where
  histories : σ → Except SourceError (List DeviceTask)
  create : NewTask → σ → Except SourceError Task × σ
  alarms : σ → Except StoreError (List Alarm)

/-- The reply to a failure of the scheduling server. -/
def sourceReply : SourceError → Reply
  | .notAuthenticated => .text 401 "Not authenticated with the scheduling server"
  | .transport _ => .text 502 "Scheduling server unreachable"

/-- A reply from the histories, or about why there are none. -/
def fromHistories (fetched : Except SourceError (List DeviceTask))
    (reply : List DeviceTask → Except RangeError Reply) : Except RangeError Reply :=
  match fetched with
  | .ok histories => reply histories
  | .error e => .ok (sourceReply e)

/-- The overview with the state of each device. -/
def overviewReply (now : Instant) (histories : List DeviceTask) : Except RangeError Reply := do
  let lines ← overviewAt histories now
  return .json 200 (Json.list (fun (line, state) => OverviewLine.toJson line state) lines)

/-- The histories of all devices. -/
def historiesReply (histories : List DeviceTask) : Reply :=
  .json 200 (Json.list DeviceTask.toJson histories)

/-- The first history of a device. -/
def historyReply (id : Int64) (histories : List DeviceTask) : Reply :=
  match histories.find? (·.device.id = id) with
  | some history => .json 200 history.toJson
  | none => .text 404 "Device not found"

/-- The stored alarms by start; those of one start by id. -/
def alarmsReply : Except StoreError (List Alarm) → Reply
  | .ok alarms =>
    .json 200 (Json.list Alarm.toJson (alarms.mergeSort fun a b => (a.start.order b.start).isLE))
  | .error _ => .text 500 "Error reading alarms"

/-- The most octets that the body of a request may have: two mebibytes. -/
def mostOctets : Nat := 2097152

/-- Why no task is taken from a request. -/
inductive BodyFault
  /-- Its body is not said to be JSON, or holds no task. -/
  | unreadable
  /-- Its body is too long. -/
  | tooLong
deriving DecidableEq, Repr

/-- The status of the reply to a request from which no task is taken. -/
def BodyFault.status : BodyFault → Nat
  | .unreadable => 400
  | .tooLong => 413

/-- The body of a request is said to be JSON. -/
def Request.isJson (r : Request) : Bool :=
  match r.contentType.bind fun text => MediaType.read? text.toList with
  | some mediaType => mediaType.isJson
  | none => false

/-- The task in the body of a request. What the body is said to be is looked at first, then its
length, and then the body itself. -/
def taskOf (r : Request) : Except BodyFault NewTask :=
  if r.isJson = false then .error .unreadable
  else if mostOctets < r.body.utf8ByteSize then .error .tooLong
  else
    match (Json.read? r.body.toList).bind NewTask.ofJson? with
    | some task => .ok task
    | none => .error .unreadable

/-- The reply to a task that was forwarded. -/
def createdReply : Except SourceError Task → Reply
  | .ok task => .json 201 task.toJson
  | .error e => sourceReply e

/-- Answers a request. -/
def respond {σ : Type} (b : Backend σ) (now : Instant) (r : Request) (s : σ) :
    Except RangeError Reply × σ :=
  match Endpoint.ofRequest? r with
  | none => (.ok (.text 404 ""), s)
  | some .overview => (fromHistories (b.histories s) (overviewReply now), s)
  | some .histories => (fromHistories (b.histories s) fun hs => .ok (historiesReply hs), s)
  | some (.history none) => (.ok (.bare 404), s)
  | some (.history (some id)) =>
    (fromHistories (b.histories s) fun hs => .ok (historyReply id hs), s)
  | some .alarms => (.ok (alarmsReply (b.alarms s)), s)
  | some .newTask =>
    match taskOf r with
    | .error fault => (.ok (.bare fault.status), s)
    | .ok task =>
      match task.validate with
      | .error e => (.ok (.text 400 e.message), s)
      | .ok () =>
        let (created, s) := b.create task s
        (.ok (createdReply created), s)

/-- A task that does not fit is not forwarded. -/
theorem respond_newTask_of_refused {σ : Type} (b : Backend σ) (now : Instant) {r : Request} (s : σ)
    {task : NewTask} {e : TaskFault} (hr : Endpoint.ofRequest? r = some .newTask)
    (ht : taskOf r = .ok task) (he : task.validate = .error e) :
    respond b now r s = (.ok (.text 400 e.message), s) := by
  simp [respond, hr, ht, he]

end Household.Api
