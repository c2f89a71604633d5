import Household.Alarm.Basic
import Household.Zone

/-!
# Notices

What the user is told when an alarm fires: before the start of the run to get ready, with the
minutes that are left, and from the start on to start now, with the time at which the run ends.
-/

namespace Household

/-- What to tell the user. -/
inductive Notice
  | getReady (deviceName : String) (minutes : Int)
  | startNow (deviceName : String) (endsAt : Instant)
deriving DecidableEq

namespace Notice

/-- Whole minutes that a number of seconds fills, the last one possibly in part. -/
def minutesOf (seconds : Int) : Int :=
  (seconds + 59).tdiv 60

/-- The notice of an alarm at a moment. The end of the run is only looked at from its start on. -/
def forAlarm (a : Alarm) (now : Instant) : Except RangeError Notice :=
  if now < a.start then .ok (.getReady a.deviceName (minutesOf (a.start.since now).seconds))
  else do return .startNow a.deviceName (← a.endTime)

/-- The name of the device. -/
def title : Notice → String
  | .getReady deviceName _ => deviceName
  | .startNow deviceName _ => deviceName

/-- The message, with times of day in the given zone. -/
def body (zone : Zone) : Notice → String
  | .getReady _ minutes =>
    if minutes = 1 then "Starts in 1 minute, get ready"
    else "Starts in " ++ String.ofList (Text.signed minutes) ++ " minutes, get ready"
  | .startNow _ endsAt => "Start now, runs until " ++ String.ofList (zone.clockText endsAt)

end Notice

/-- A notice as it is shown. -/
structure Message where
  title : String
  body : String
deriving DecidableEq, Repr

/-- The message of a notice. -/
def Notice.message (zone : Zone) (n : Notice) : Message :=
  ⟨n.title, n.body zone⟩

end Household
