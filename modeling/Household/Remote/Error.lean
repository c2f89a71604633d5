import Household.Json.Record

/-!
# Failures of the Scheduling Server

Reading from or writing to the scheduling server fails in one of two ways: it does not know who is
asking, or no usable answer came back.

## Main results

* `SourceError.ofJson?_toJson`: a failure is read back from what is written.
-/

namespace Household

open Json

/-- Why the scheduling server gave no answer. -/
inductive SourceError
  | notAuthenticated
  | transport (reason : String)
deriving DecidableEq, Repr

namespace SourceError

/-- The text of a failure. -/
def message : SourceError → String
  | .notAuthenticated => "Not authenticated"
  | .transport reason => "Transport failure: " ++ reason

/-- A failure as a choice; only a lost call has a payload, its reason. -/
def toJson : SourceError → Json
  | .notAuthenticated => .text "NotAuthenticated"
  | .transport reason => .object [("Transport", .text reason)]

/-- Reads a failure. -/
def ofJson? (v : Json) : Option SourceError := do
  match ← choice? v with
  | ("NotAuthenticated", payload) => if noPayload payload then some .notAuthenticated else none
  | ("Transport", some payload) => (text? payload).map .transport
  | _ => none

/-- A failure is read back from what is written. -/
theorem ofJson?_toJson (e : SourceError) : ofJson? e.toJson = some e := by
  cases e <;> rfl

end SourceError

end Household
