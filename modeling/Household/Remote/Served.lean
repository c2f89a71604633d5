import Household.Remote.Error
import Household.Schedule.History

/-!
# What the Server Serves

Devices, tasks and events are fetched at once. The histories can be joined when all three have
arrived; otherwise the first of the three that failed, in this order, gives the reason.

## Main results

* `histories_eq_ok_iff`: there are histories exactly when all three lists have arrived.
-/

namespace Household

/-- The answers to the three requests of a fetch. -/
structure Served where
  devices : Except SourceError (List Device)
  tasks : Except SourceError (List Task)
  events : Except SourceError (List Event)

/-- The histories of the served devices. -/
def Served.histories (s : Served) : Except SourceError (List DeviceTask) := do
  return History.join (← s.devices) (← s.tasks) (← s.events)

/-- There are histories exactly when all three lists have arrived. -/
theorem Served.histories_eq_ok_iff (s : Served) (histories : List DeviceTask) :
    s.histories = .ok histories ↔ ∃ devices tasks events, s.devices = .ok devices
      ∧ s.tasks = .ok tasks ∧ s.events = .ok events
      ∧ History.join devices tasks events = histories := by
  obtain ⟨devices, tasks, events⟩ := s
  cases devices <;> cases tasks <;> cases events <;>
    simp [Served.histories, bind, Except.bind, pure, Except.pure]

end Household
