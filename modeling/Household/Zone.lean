import Household.Instant.Printer

/-!
# Time Zones

A zone has a name and at every second of universal time an offset from it. Which zones there are,
and when they change their clocks, is a matter of law in many countries: it comes from a table that
is kept up to date elsewhere, and is taken as it is.
-/

namespace Household

/-- A time zone: its name, and the seconds that its clocks are ahead at a second of universal
time. -/
structure Zone where
  name : String
  offsetAt : Int → Int

namespace Zone

/-- Universal time. -/
def universal : Zone := ⟨"UTC", fun _ => 0⟩

/-- The local hours and minutes of an instant. -/
def clockText (z : Zone) (t : Instant) : List Char :=
  Instant.clockText ((t.second + z.offsetAt t.second) % 86400).toNat

end Zone

end Household
