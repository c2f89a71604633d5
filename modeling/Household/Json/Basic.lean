import Household.Binary64.Shortest
import Household.Text.Numeral

/-!
# JSON Values

A JSON value keeps its numbers as they are written and the members of an object in the order in
which they stand, repeated names included: which repetitions are allowed is for the reader of a
record to say.

A text can be written with escapes of which one is half of a surrogate pair, or with octets that
belong to no character. It has the form of a text but stands for no characters, and an object with
such a name has no members that could be named. Both are kept as garbled values: a reader that wants
something of them fails, one that skips them does not mind.
-/

namespace Household

open Text

/-- Where a reader that wants the characters of a garbled value gives up. -/
inductive Json.Flaw
  /-- At its end, as if it had read the value. -/
  | atEnd
  /-- Somewhere within. -/
  | within
deriving DecidableEq, Repr, Inhabited

/-- A JSON value. -/
inductive Json
  | null
  | bool (b : Bool)
  | number (n : Numeral)
  | text (s : String)
  | array (items : List Json)
  | object (members : List (String × Json))
  /-- A text that stands for no characters, or an object with such a name. -/
  | garbled (flaw : Json.Flaw)
deriving Inhabited

namespace Json

/-- A whole number as a JSON value. -/
def int (n : Int) : Json :=
  .number (.ofInt n)

/-- A 64-bit word as a JSON value. -/
def word (n : Int64) : Json :=
  .int n.toInt

/-- A double as a JSON value. -/
def double (x : Binary64) : Json :=
  .number x.numeral

/-- A value or null. -/
def optional {α : Type} (f : α → Json) : Option α → Json
  | some a => f a
  | none => .null

end Json

end Household
