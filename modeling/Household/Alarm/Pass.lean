import Household.Alarm.Store
import Household.Remote.Error

/-!
# Passes

A pass brings the stored alarms and the timers in line with the server: it fetches the histories,
reads the store, decides on a diff, commits it and only then arms and cancels timers one by one. An
empty diff ends the pass before it writes anything.

A pass is a sequence of steps, since two passes can overlap and a pass can end at any of them.
`Pass.step` is one step, `Pass.run` a whole pass with nothing in between.

After a restart there are no timers; `rearm` sets those of all stored alarms that have not ended.

## Main results

* `Pass.carryOut_eq_none_iff`: all timers are set exactly if every one of them has a due time.
-/

namespace Household

/-- What the scheduler of timers is told. -/
inductive TimerCommand
  /-- The alarm with this id fires at this instant, and at no other. -/
  | schedule (id : Int64) (due : Instant)
  /-- The alarm with this id does not fire. -/
  | cancel (id : Int64)
deriving DecidableEq

/-- Why an activity ended before it was done. -/
inductive Failure
  | source (e : SourceError)
  | store (e : StoreError)
  | range (e : RangeError)
deriving DecidableEq, Repr

/-- The text of a failure. -/
def Failure.message : Failure → String
  | .source e => e.message
  | .store e => e.message
  | .range e => e.message

/-- The next pass tries again after every failure of the server or the store. -/
def Failure.isRetryable : Failure → Bool
  | .source _ => true
  | .store _ => true
  | .range _ => false

/-- What follows a committed diff for one alarm. -/
inductive Intent
  /-- Its timer is set. -/
  | arm (a : Alarm)
  /-- Its timer is cancelled. -/
  | disarm (a : Alarm)
deriving DecidableEq

/-- What follows a committed diff: the inserted alarms are armed, then the deleted ones disarmed. -/
def Diff.intents (d : Diff) : List Intent :=
  d.toInsert.map .arm ++ d.toDelete.map .disarm

/-- The command of an intent, with the clock and the lead of the pass. -/
def Intent.command (now : Instant) (lead : Span) : Intent → Except RangeError TimerCommand
  | .arm a => do return .schedule a.id (← firstFire now a.start lead)
  | .disarm a => .ok (.cancel a.id)

namespace Pass

/-- How far a pass has got. -/
inductive Stage
  | fetching
  | reading (deviceTasks : List DeviceTask)
  | committing (diff : Diff)
  /-- The diff is committed; `left` is still to be carried out, with the clock read at the
  commit. -/
  | arming (diff : Diff) (now : Instant) (left : List Intent)
  | ended (result : Except Failure Diff)

/-- What one step can see: the answer of the server, and the clock. -/
structure View where
  fetched : Except SourceError (List DeviceTask)
  now : Instant
  lead : Span

/-- One step of a pass: the stage after it, the store after it and what the scheduler is told. -/
def step (view : View) (store : Store) : Stage → Stage × Store × List TimerCommand
  | .fetching =>
    match view.fetched with
    | .error e => (.ended (.error (.source e)), store, [])
    | .ok deviceTasks => (.reading deviceTasks, store, [])
  | .reading deviceTasks =>
    match store.all with
    | .error e => (.ended (.error (.store e)), store, [])
    | .ok stored =>
      let diff := Diff.reconcile deviceTasks stored
      (if diff.isEmpty then .ended (.ok diff) else .committing diff, store, [])
  | .committing diff =>
    match store.apply diff with
    | .error e => (.ended (.error (.store e)), store, [])
    | .ok store => (.arming diff view.now diff.intents, store, [])
  | .arming diff _ [] => (.ended (.ok diff), store, [])
  | .arming diff now (i :: left) =>
    match i.command now view.lead with
    | .error e => (.ended (.error (.range e)), store, [])
    | .ok c => (.arming diff now left, store, [c])
  | .ended result => (.ended result, store, [])

/-- What a whole pass leaves behind. -/
structure Report where
  result : Except Failure Diff
  store : Store
  commands : List TimerCommand

/-- The commands of a sequence of intents up to the first one without a due time. -/
def carryOut (now : Instant) (lead : Span) : List Intent → List TimerCommand × Option RangeError
  | [] => ([], none)
  | i :: left =>
    match i.command now lead with
    | .error e => ([], some e)
    | .ok c => let (cs, e) := carryOut now lead left; (c :: cs, e)

/-- A whole pass. -/
def run (view : View) (store : Store) : Report :=
  match view.fetched with
  | .error e => ⟨.error (.source e), store, []⟩
  | .ok deviceTasks =>
    match store.all with
    | .error e => ⟨.error (.store e), store, []⟩
    | .ok stored =>
      let diff := Diff.reconcile deviceTasks stored
      if diff.isEmpty then ⟨.ok diff, store, []⟩
      else
        match store.apply diff with
        | .error e => ⟨.error (.store e), store, []⟩
        | .ok store =>
          match carryOut view.now view.lead diff.intents with
          | (commands, none) => ⟨.ok diff, store, commands⟩
          | (commands, some e) => ⟨.error (.range e), store, commands⟩

/-- All timers are set exactly if every one of them has a due time. -/
theorem carryOut_eq_none_iff (now : Instant) (lead : Span) (is : List Intent) :
    (carryOut now lead is).2 = none ↔ ∀ i ∈ is, ∃ c, i.command now lead = .ok c := by
  induction is with
  | nil => simp [carryOut]
  | cons i is ih =>
    simp only [carryOut, List.forall_mem_cons, ← ih]
    cases i.command now lead with
    | error e => simp
    | ok c => simp

end Pass

/-! ### After a restart -/

/-- Sets the timers of the alarms that have not ended, up to the first one whose end or due time is
out of range; also how many were set. -/
def rearmAll (now : Instant) (lead : Span) :
    List Alarm → List TimerCommand × Except RangeError Nat
  | [] => ([], .ok 0)
  | a :: as =>
    match a.endTime with
    | .error e => ([], .error e)
    | .ok finish =>
      if finish ≤ now then rearmAll now lead as
      else
        match firstFire now a.start lead with
        | .error e => ([], .error e)
        | .ok due =>
          let (cs, n) := rearmAll now lead as
          (.schedule a.id due :: cs, n.map (· + 1))

/-- Sets the timers of the stored alarms. -/
def rearm (now : Instant) (lead : Span) (store : Store) : List TimerCommand × Except Failure Nat :=
  match store.all with
  | .error e => ([], .error (.store e))
  | .ok stored =>
    let (cs, n) := rearmAll now lead stored
    (cs, n.mapError .range)

end Household
