import Household.Timer

/-!
# The Timer Scheduler

Every registration has a task of its own that naps until the registration is due, sends the id and
ends. The scheduler keeps a handle to the task of each id: by it the task is stopped when the id is
registered again or cancelled. The handle of a task that has ended stays where it is until the next
registration of whatever id.

## Main results

* `isFinished_eq_false_iff`: the tasks that are not finished are those that nap.
-/

namespace Household

/-- Where the task of a registration stands. -/
inductive Registration.Stage
  /-- It naps until this monotonic time in nanoseconds; before its first look at the clock it naps
  until the time at which it was made. -/
  | napping (wakes : Int)
  /-- It has sent its id and ended. -/
  | sent
  /-- It was stopped before it could do so. -/
  | stopped
deriving DecidableEq

/-- The registration of an id for an instant. -/
structure Registration where
  id : Int64
  due : Instant
  stage : Registration.Stage
deriving DecidableEq

namespace Registration

/-- The task has ended, in one way or the other. -/
def isOver (r : Registration) : Bool :=
  match r.stage with
  | .napping _ => false
  | _ => true

/-- Stops the task; nothing happens if it has ended. -/
def stop (r : Registration) : Registration :=
  if r.isOver then r else { r with stage := .stopped }

end Registration

/-- All registrations in the order in which they were made, and for each id the place of the one to
whose task there is a handle. -/
structure Scheduler where
  longestNap : Span
  registrations : List Registration
  handles : Table Nat

namespace Scheduler

/-- No registrations. -/
def idle (longestNap : Span) : Scheduler := ⟨longestNap, [], .empty⟩

/-- The task that a handle leads to has ended. -/
def isFinished (s : Scheduler) (n : Nat) : Bool :=
  (s.registrations[n]?.map Registration.isOver).getD true

/-- Stops the task that a handle leads to. -/
def abort (s : Scheduler) (n : Nat) : Scheduler :=
  { s with registrations := s.registrations.modify n Registration.stop }

/-- Starts the task of a new registration, without a handle to it. -/
def spawn (s : Scheduler) (id : Int64) (due : Instant) (elapsed : Int) : Scheduler :=
  { s with registrations := s.registrations ++ [⟨id, due, .napping elapsed⟩] }

/-- Drops the handles of the tasks that have ended. -/
def purge (s : Scheduler) : Scheduler :=
  { s with handles := s.handles.filter fun n => !s.isFinished n }

/-- Puts the handle of an id in place of the one that was there, whose task is stopped. -/
def enter (s : Scheduler) (id : Int64) (n : Nat) : Scheduler :=
  let entered := { s with handles := s.handles.insert id n }
  match s.handles.get? id with
  | some previous => entered.abort previous
  | none => entered

/-- Registers an id at a monotonic time, in place of its registration before. -/
def schedule (s : Scheduler) (id : Int64) (due : Instant) (elapsed : Int) : Scheduler :=
  ((s.spawn id due elapsed).purge).enter id s.registrations.length

/-- Removes the handle of an id and stops its task; nothing happens if there is none. -/
def cancel (s : Scheduler) (id : Int64) : Scheduler :=
  match s.handles.get? id with
  | some n => { s with handles := s.handles.erase id }.abort n
  | none => s

/-- The number of handles of which the task has not ended. -/
def pending (s : Scheduler) : Nat :=
  (s.handles.values.filter fun n => !s.isFinished n).length

/-- Changes where the task of a registration stands. -/
def setStage (s : Scheduler) (n : Nat) (stage : Registration.Stage) : Scheduler :=
  { s with registrations := s.registrations.modify n ({ · with stage }) }

/-- The task of a registration wakes up at a monotonic time and looks at the clock: it sends its id
and ends, or naps again. Also the id that is sent. -/
def wake (s : Scheduler) (n : Nat) (elapsed : Int) (now : Instant) : Scheduler × Option Int64 :=
  match s.registrations[n]? with
  | some ⟨id, due, .napping _⟩ =>
    match nap? s.longestNap due now with
    | none => (s.setStage n .sent, some id)
    | some d => (s.setStage n (.napping (elapsed + d.nanos)), none)
  | _ => (s, none)

/-! ### Waking up in time -/

/-- The monotonic time at which a task wakes up. -/
def wakes? (s : Scheduler) (n : Nat) : Option Int :=
  match s.registrations[n]? with
  | some ⟨_, _, .napping wakes⟩ => some wakes
  | _ => none

/-- The tasks whose nap is over at a monotonic time. -/
def awake (s : Scheduler) (elapsed : Int) : List Nat :=
  (List.range s.registrations.length).filter fun n => (s.wakes? n).any (· ≤ elapsed)

/-- The given tasks wake up; also the ids that are sent. -/
def wakeAll (elapsed : Int) (now : Instant) : Scheduler → List Nat → Scheduler × List Int64
  | s, [] => (s, [])
  | s, n :: ns =>
    let (s, sent) := s.wake n elapsed now
    let (s, more) := wakeAll elapsed now s ns
    (s, sent.toList ++ more)

/-- All tasks whose nap is over wake up; also the ids that are sent. -/
def settle (s : Scheduler) (elapsed : Int) (now : Instant) : Scheduler × List Int64 :=
  wakeAll elapsed now s (s.awake elapsed)

/-- The monotonic time at which the next nap ends. -/
def nextWake? (s : Scheduler) : Option Int :=
  ((List.range s.registrations.length).filterMap s.wakes?).min?

/-! ### Small facts -/

/-- The tasks that are not finished are those that nap. -/
theorem isFinished_eq_false_iff {s : Scheduler} {n : Nat} :
    s.isFinished n = false ↔
      ∃ id due wakes, s.registrations[n]? = some ⟨id, due, .napping wakes⟩ := by
  rw [isFinished]
  match s.registrations[n]? with
  | none => simp
  | some ⟨id, due, .napping wakes⟩ => simp [Registration.isOver]
  | some ⟨id, due, .sent⟩ => simp [Registration.isOver]
  | some ⟨id, due, .stopped⟩ => simp [Registration.isOver]

end Scheduler

end Household
