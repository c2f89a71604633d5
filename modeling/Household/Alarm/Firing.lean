import Household.Alarm.Notice
import Household.Alarm.Pass

/-!
# Firing

An alarm that fires is looked up in the store. If it is gone nothing happens. Otherwise its notice
is shown, and a get-ready notice sets the timer again for the start of the run.

## Main results

* `handle_of_missing`: an alarm that is gone shows nothing and sets nothing.
-/

namespace Household.Firing

/-- What handling fired alarms leaves behind: the messages shown and the commands to the scheduler
in their order, and how it ended. -/
structure Report (α : Type) where
  messages : List Message
  commands : List TimerCommand
  result : Except Failure α

/-- What is found out when an alarm has fired: the answer of the store to its id, and the clock. -/
structure Finding where
  loaded : Except StoreError (Option Alarm)
  now : Instant

/-- What is found for an id in a store. -/
def Finding.of (store : Store) (now : Instant) (id : Int64) : Finding :=
  ⟨store.load id, now⟩

/-- The handling of one fired alarm. The message is shown before the timer is set. -/
def handle (zone : Zone) (f : Finding) : Report (Option Notice) :=
  match f.loaded with
  | .error e => ⟨[], [], .error (.store e)⟩
  | .ok none => ⟨[], [], .ok none⟩
  | .ok (some a) =>
    match Notice.forAlarm a f.now with
    | .error e => ⟨[], [], .error (.range e)⟩
    | .ok (.startNow name endsAt) =>
      let notice := Notice.startNow name endsAt
      ⟨[notice.message zone], [], .ok (some notice)⟩
    | .ok (.getReady name minutes) =>
      let notice := Notice.getReady name minutes
      match firstFire f.now a.start .zero with
      | .error e => ⟨[notice.message zone], [], .error (.range e)⟩
      | .ok due => ⟨[notice.message zone], [.schedule a.id due], .ok (some notice)⟩

/-- The handling of fired alarms one after the other. A failure of the store costs only the alarm
that it hits; arithmetic out of range ends the whole sequence. -/
def dispatch (zone : Zone) : List Finding → Report Unit
  | [] => ⟨[], [], .ok ()⟩
  | f :: fs =>
    let one := handle zone f
    match one.result with
    | .error (.range e) => ⟨one.messages, one.commands, .error (.range e)⟩
    | _ =>
      let rest := dispatch zone fs
      ⟨one.messages ++ rest.messages, one.commands ++ rest.commands, rest.result⟩

/-- An alarm that is gone shows nothing and sets nothing. -/
theorem handle_of_missing (zone : Zone) (now : Instant) :
    handle zone ⟨.ok none, now⟩ = ⟨[], [], .ok none⟩ :=
  rfl

end Household.Firing
