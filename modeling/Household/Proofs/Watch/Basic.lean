import Household.Alarm.Firing
import Household.Timer
import Household.Proofs.Alarm.Bounds
import Household.Proofs.Alarm.Keeping

/-!
# The Watch Over Alarms

Passes, timers, the handling of fired alarms and restarts share a store and a clock. `Watch` is all
that they share, and `step?` is one move of one of them, run to completion: there is no state after
a move that ends on the way, because arithmetic went out of range or because the store failed an
alarm that had fired. A pass that the server or the store fails is complete, and leaves everything
as it was.

Two parts of a watch are looked at by no move, and are there to say what a run has done: the alarms
as they were made, before a row took the fractions of milliseconds off their starts, and the log.

## Main results

* `step?`: one move.
* `Reachable`: the watches that a run leads to, from a restart on.
-/

namespace Household

/-- The store with its alarms as they are, and what its database refuses from now on, be it all. -/
def Store.troubled (outage? : Option Outage) (refusedWrites refusedDeletes : List Int64) :
    Store → Store
  | .memory alarms => .memory alarms
  | .database db => .database ⟨db.rows, outage?, refusedWrites, refusedDeletes⟩

section Troubled

variable (s : Store) (outage? : Option Outage) (refusedWrites refusedDeletes : List Int64)

/-- What a database refuses is no matter of the alarms that it holds. -/
@[simp] theorem Store.alarms_troubled :
    (s.troubled outage? refusedWrites refusedDeletes).alarms = s.alarms := by
  cases s <;> rfl

/-- What a database refuses is no matter of how it keeps alarms. -/
@[simp] theorem Store.keep_troubled :
    (s.troubled outage? refusedWrites refusedDeletes).keep = s.keep := by
  cases s <;> rfl

/-- What a database refused before does not count. -/
@[simp] theorem Store.troubled_troubled (newOutage? : Option Outage)
    (refusedWrites' refusedDeletes' : List Int64) :
    (s.troubled outage? refusedWrites refusedDeletes).troubled newOutage? refusedWrites'
      refusedDeletes' = s.troubled newOutage? refusedWrites' refusedDeletes' := by
  cases s <;> rfl

/-- What a database refuses is no matter of the ids under which alarms are kept. -/
theorem Store.Keyed.troubled {s : Store} (h : s.Keyed) :
    (s.troubled outage? refusedWrites refusedDeletes).Keyed := by
  cases s <;> exact h

/-- The two stores hold the same, whatever their databases refuse. -/
def Store.Alike (s s' : Store) : Prop :=
  ∃ outage? refusedWrites refusedDeletes, s' = s.troubled outage? refusedWrites refusedDeletes

/-- A store holds the same as itself. -/
theorem Store.Alike.refl : s.Alike s := by
  cases s with
  | memory alarms => exact ⟨none, [], [], rfl⟩
  | database db => exact ⟨db.outage?, db.refusedWrites, db.refusedDeletes, rfl⟩

variable {s} {s' : Store}

/-- Stores that hold the same hold the same alarms. -/
theorem Store.Alike.alarms_eq (h : s.Alike s') : s'.alarms = s.alarms := by
  obtain ⟨_, _, _, rfl⟩ := h
  exact s.alarms_troubled _ _ _

/-- Stores that hold the same are the same as soon as the same is refused. -/
theorem Store.Alike.troubled_eq (h : s.Alike s') :
    s'.troubled outage? refusedWrites refusedDeletes =
      s.troubled outage? refusedWrites refusedDeletes := by
  obtain ⟨_, _, _, rfl⟩ := h
  exact s.troubled_troubled _ _ _ _ _ _

/-- What a database comes to refuse is no matter of what it holds. -/
theorem Store.Alike.troubled (h : s.Alike s') :
    s.Alike (s'.troubled outage? refusedWrites refusedDeletes) :=
  ⟨outage?, refusedWrites, refusedDeletes, h.troubled_eq _ _ _⟩

end Troubled

/-- What has happened to an alarm. -/
inductive Entry
  /-- Its timer was set at a moment. -/
  | armed (id : Int64) (due moment : Instant)
  /-- A message was shown for it. -/
  | shown (id : Int64) (message : Message)

/-- The timer of the alarm was set. -/
def Entry.arms (id : Int64) : Entry → Bool
  | .armed k _ _ => k = id
  | .shown _ _ => false

/-- What passes, timers, the handling of fired alarms and restarts share. -/
structure Watch where
  store : Store
  /-- The stored alarms as they were made. -/
  made : Table Alarm
  timers : Timers
  /-- The ids that have fired and are not handled yet, the first one first. -/
  queue : List Int64
  /-- What has happened, the last first. -/
  log : List Entry
  now : Instant
  /-- The monotonic clock. -/
  elapsed : Int
  /-- When the program was last started. -/
  restarted : Instant

namespace Watch

/-- What has happened since the timer of the alarm was last set. -/
def since (id : Int64) (log : List Entry) : List Entry :=
  log.takeWhile (!·.arms id)

/-- A command to the scheduler. -/
def obey (w : Watch) : TimerCommand → Watch
  | .schedule id due =>
    { w with
      timers := w.timers.schedule id due w.elapsed
      log := .armed id due w.now :: w.log }
  | .cancel id => { w with timers := w.timers.cancel id }

/-- Commands to the scheduler one after the other. -/
def obeyAll (w : Watch) (cs : List TimerCommand) : Watch :=
  cs.foldl obey w

/-- A pass. -/
def pass? (lead : Span) (fetched : Except SourceError (List DeviceTask)) (w : Watch) :
    Option Watch :=
  let report := Pass.run ⟨fetched, w.now, lead⟩ w.store
  match report.result with
  | .ok diff =>
    some (obeyAll { w with store := report.store, made := Store.applyDiff w.made diff }
      report.commands)
  | .error (.range _) => none
  | .error _ => some (obeyAll { w with store := report.store } report.commands)

/-- A timer looks at the clock, and its alarm may fire. -/
def wake (id : Int64) (w : Watch) : Watch :=
  let (timers, fired) := w.timers.look w.elapsed w.now id
  { w with timers, queue := if fired then w.queue ++ [id] else w.queue }

/-- The first alarm of the queue is handled. -/
def dispatch? (zone : Zone) (w : Watch) : Option Watch :=
  match w.queue with
  | [] => none
  | id :: queue =>
    let report := Firing.handle zone (.of w.store w.now id)
    match report.result with
    | .ok _ =>
      some (obeyAll { w with queue, log := report.messages.map (.shown id) ++ w.log }
        report.commands)
    | .error _ => none

/-- A restart: timers and queue are gone, and the timers of the stored alarms are set. -/
def restart? (lead : Span) (w : Watch) : Option Watch :=
  let (commands, result) := rearm w.now lead w.store
  match result with
  | .ok _ =>
    some (obeyAll { w with timers := .idle w.timers.longestNap, queue := [], restarted := w.now }
      commands)
  | .error _ => none

/-- What can happen next. -/
inductive Move
  /-- A pass with this answer of the server. -/
  | pass (fetched : Except SourceError (List DeviceTask))
  /-- The timer of an alarm looks at the clock. -/
  | wake (id : Int64)
  /-- The first alarm of the queue is handled. -/
  | dispatch
  /-- The clocks go on, or are set. -/
  | clock (now : Instant) (elapsed : Int)
  /-- The database comes to refuse something or to answer nothing, or ceases to. -/
  | trouble (outage? : Option Outage) (refusedWrites refusedDeletes : List Int64)
  /-- The program is started again. -/
  | restart

/-- One move, if it runs to completion. -/
def step? (lead : Span) (zone : Zone) (w : Watch) : Move → Option Watch
  | .pass fetched => w.pass? lead fetched
  | .wake id => some (w.wake id)
  | .dispatch => w.dispatch? zone
  | .clock now elapsed => some { w with now, elapsed }
  | .trouble outage? refusedWrites refusedDeletes =>
    some { w with store := w.store.troubled outage? refusedWrites refusedDeletes }
  | .restart => w.restart? lead

end Watch

/-- The alarm starts outside leap seconds and lasts no negative time, and there are both its start
less the lead and its end. -/
structure Alarm.InReach (lead : Span) (a : Alarm) : Prop where
  isLeap_eq : a.start.isLeap = false
  duration_nonneg : 0 ≤ a.durationMs.toInt
  leadFits : a.LeadFits lead
  hasEnd : a.HasEnd

/-- The runs that the server lists, if it answers, make alarms within reach. -/
def Watch.Move.InReach (lead : Span) : Move → Prop
  | .pass (.ok deviceTasks) => ∀ a ∈ Diff.alarmsOf deviceTasks, a.InReach lead
  | _ => True

namespace Watch

/-- The store holds what it keeps of the alarms that were made, and all of them are within reach. -/
structure Founded (lead : Span) (w : Watch) : Prop where
  keyed : w.store.Keyed
  alarms_eq : w.store.alarms = w.made.map w.store.keep
  inReach : ∀ id a, w.made.get? id = some a → a.InReach lead

/-- The watches that a run leads to: first a restart, whatever there was before it but for the
stored alarms, and then moves in any order. -/
inductive Reachable (lead : Span) (zone : Zone) : Watch → Prop
  | start {w w' : Watch} : w.Founded lead → w.restart? lead = some w' → Reachable lead zone w'
  | step {w w' : Watch} {m : Move} : Reachable lead zone w → m.InReach lead →
      w.step? lead zone m = some w' → Reachable lead zone w'

end Watch

end Household
