import Household.Remote.Served

/-!
# A Fetch of Three Requests

The three requests of a fetch are made at once and may be answered in any order. The fetch ends with
the first of them that fails, so that it depends on this order what it fails with; whether it fails,
and what it fetches if it does not, depends on the answers alone.

## Main results

* `Served.awaited_eq_error_iff`: a fetch fails with a request that failed before all others that
  did.
* `Served.awaited_eq_ok_iff`: what is fetched does not depend on the order of the answers.
-/

namespace Household

/-- Why there is no answer, if there is none. -/
def SourceError.ofAnswer? {α : Type} : Except SourceError α → Option SourceError
  | .error e => some e
  | .ok _ => none

/-- One of the three requests of a fetch. -/
inductive Request
  | devices
  | tasks
  | events
deriving DecidableEq

namespace Served

variable {s : Served} {order : List Request}

/-- Why a request failed, if it did. -/
def failure? (s : Served) : Request → Option SourceError
  | .devices => SourceError.ofAnswer? s.devices
  | .tasks => SourceError.ofAnswer? s.tasks
  | .events => SourceError.ofAnswer? s.events

/-- What a fetch ends with when the requests are answered in this order. -/
def awaited (s : Served) (order : List Request) : Except SourceError (List DeviceTask) :=
  match order.findSome? s.failure? with
  | some e => .error e
  | none => s.histories

/-- There are histories exactly if no request fails. -/
theorem exists_histories_eq_ok_iff :
    (∃ histories, s.histories = .ok histories) ↔ ∀ r, s.failure? r = none := by
  simp only [histories_eq_ok_iff]
  constructor
  · rintro ⟨_, devices, tasks, events, hdevices, htasks, hevents, rfl⟩ r
    cases r with
    | devices => rw [failure?, hdevices, SourceError.ofAnswer?]
    | tasks => rw [failure?, htasks, SourceError.ofAnswer?]
    | events => rw [failure?, hevents, SourceError.ofAnswer?]
  · intro h
    obtain ⟨devices, tasks, events⟩ := s
    cases devices with
    | error e => cases h .devices
    | ok devices =>
      cases tasks with
      | error e => cases h .tasks
      | ok tasks =>
        cases events with
        | error e => cases h .events
        | ok events => exact ⟨_, devices, tasks, events, rfl, rfl, rfl, rfl⟩

/-- **What is fetched does not depend on the order of the answers.** -/
theorem awaited_eq_ok_iff {histories : List DeviceTask} :
    s.awaited order = .ok histories ↔ s.histories = .ok histories := by
  rw [awaited]
  cases h : order.findSome? s.failure? with
  | none => exact Iff.rfl
  | some e =>
    refine iff_of_false (by simp) fun hok => ?_
    obtain ⟨r, -, hr⟩ := List.exists_of_findSome?_eq_some h
    cases hr.symm.trans (exists_histories_eq_ok_iff.mp ⟨_, hok⟩ r)

/-- **A fetch fails with a request that failed before all others that did.** -/
theorem awaited_eq_error_iff (horder : ∀ r, r ∈ order) {e : SourceError} :
    s.awaited order = .error e ↔
      ∃ before r after, order = before ++ r :: after ∧ s.failure? r = some e ∧
        ∀ r' ∈ before, s.failure? r' = none := by
  rw [← List.findSome?_eq_some_iff, awaited]
  cases h : order.findSome? s.failure? with
  | none =>
    have hnone : ∀ r, s.failure? r = none :=
      fun r => List.findSome?_eq_none_iff.mp h r (horder r)
    obtain ⟨histories, hok⟩ := exists_histories_eq_ok_iff.mpr hnone
    simp [hok]
  | some e' => simp

/-- The histories are what is fetched when the devices are answered first and the events last. -/
theorem histories_eq_awaited (s : Served) :
    s.histories = s.awaited [.devices, .tasks, .events] := by
  obtain ⟨devices, tasks, events⟩ := s
  cases devices <;> cases tasks <;> cases events <;> rfl

end Served

end Household
