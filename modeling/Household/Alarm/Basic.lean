import Household.Schedule.Basic

/-!
# Alarms

An alarm reminds of one scheduled run. It carries the id of the run's event, and what is needed to
show it later without the server: the name of the device, the start and the duration.

## Main results

* `firstFire_eq_ok_iff`: when an alarm first fires.
-/

namespace Household

/-- The reminder of one scheduled run. -/
structure Alarm where
  id : Int64
  deviceName : String
  start : Instant
  durationMs : Int64
deriving DecidableEq

/-- The alarm of a run. -/
def Alarm.ofRun (d : Device) (t : Task) (e : Event) : Alarm :=
  { id := e.id, deviceName := d.name, start := e.start, durationMs := t.durationMs }

/-- The end of the run. -/
def Alarm.endTime (a : Alarm) : Except RangeError Instant := do
  a.start.add (← Span.ofMillis a.durationMs)

/-- When an alarm first fires: `lead` ahead of the start if that is still to come, otherwise right
away. -/
def firstFire (now start : Instant) (lead : Span) : Except RangeError Instant := do
  let due ← start.sub lead
  return if now < due then due else now

/-- An alarm first fires at the later of now and the start less the lead. -/
theorem firstFire_eq_ok_iff {now start fire : Instant} {lead : Span} :
    firstFire now start lead = .ok fire ↔
      ∃ due, start.sub lead = .ok due ∧ fire = if now < due then due else now := by
  unfold firstFire
  cases start.sub lead with
  | error e => simp [bind, Except.bind]
  | ok due => simp [bind, Except.bind, pure, Except.pure, eq_comm]

end Household
