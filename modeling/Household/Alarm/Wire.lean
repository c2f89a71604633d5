import Household.Alarm.Basic
import Household.Json.Record

/-!
# Alarms on the Wire

How alarms are written in JSON and read from it.

## Main results

* `Alarm.ofJson?_toJson`: an alarm is read back from its fields where its start is.
-/

namespace Household

open Json

/-- An alarm as an object. -/
def Alarm.toJson (a : Alarm) : Json :=
  .object [("id", word a.id), ("device_name", .text a.deviceName), ("start_time", instant a.start),
    ("duration_ms", word a.durationMs)]

/-- Reads an alarm. -/
def Alarm.ofJson? (v : Json) : Option Alarm := do
  match ← record? ["id", "device_name", "start_time", "duration_ms"] v with
  | [some id, some deviceName, some start, some durationMs] =>
    return {
      id := ← word? id
      deviceName := ← text? deviceName
      start := ← instant? start
      durationMs := ← word? durationMs }
  | _ => none

/-- An alarm is read back from its fields where its start is. -/
theorem Alarm.ofJson?_toJson (a : Alarm) (h : instant? (instant a.start) = some a.start) :
    Alarm.ofJson? a.toJson = some a := by
  simp [Alarm.ofJson?, Alarm.toJson, record?, field?, word?_word, text?, h]

end Household
