import Household.Alarm.Basic

/-!
# Rows of the Alarm Table

A row keeps the start of an alarm as whole milliseconds since 1970. What does not fit, a finer
fraction or a leap second, is lost; a number of milliseconds that is no instant reads as the epoch.

## Main results

* `Alarm.toRow_toAlarm_fields`: id, name and duration are kept as they are.
-/

namespace Household

/-- An alarm as the table keeps it. -/
structure Row where
  id : Int64
  deviceName : String
  startMs : Int64
  durationMs : Int64
deriving DecidableEq, Repr

/-- The row of an alarm. Every instant has a number of milliseconds that fits a word. -/
def Alarm.toRow (a : Alarm) : Row :=
  { id := a.id
    deviceName := a.deviceName
    startMs := Int64.ofInt a.start.millis
    durationMs := a.durationMs }

/-- The alarm of a row. -/
def Row.toAlarm (r : Row) : Alarm :=
  { id := r.id
    deviceName := r.deviceName
    start := (Instant.ofMillis? r.startMs.toInt).getD .epoch
    durationMs := r.durationMs }

/-- What an alarm becomes by being kept in the table. -/
def Alarm.stored (a : Alarm) : Alarm :=
  a.toRow.toAlarm

/-- All but the start of an alarm comes back from its row as it was. -/
theorem Alarm.toRow_toAlarm_fields (a : Alarm) :
    a.stored.id = a.id ∧ a.stored.deviceName = a.deviceName ∧ a.stored.durationMs = a.durationMs :=
  ⟨rfl, rfl, rfl⟩

end Household
