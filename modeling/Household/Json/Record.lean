import Household.Binary64.Reader
import Household.Instant.Printer
import Household.Instant.Reader
import Household.Json.Printer

/-!
# Records in JSON

A record is read from an object that names its fields, in any order, or from an array of its fields
in the order of their declaration. A repeated field is an error; unknown names are skipped. A choice
is read from its name alone or from an object with the name and a payload as its only member.

## Main results

* `record?_array`: an array that is no longer than the record gives its items to the fields.
-/

namespace Household.Json

open Text

/-- The value of a field in the members of an object: `some none` if no member has the name, `none`
if several have it. -/
def field? (members : List (String × Json)) (name : String) : Option (Option Json) :=
  match members.filter (·.1 = name) with
  | [] => some none
  | [m] => some (some m.2)
  | _ => none

/-- The fields of a record, each with its value if it has one. -/
def record? (names : List String) : Json → Option (List (Option Json))
  | .object members => names.mapM (field? members)
  | .array items =>
    if items.length ≤ names.length then
      some (items.map some ++ List.replicate (names.length - items.length) none)
    else none
  | _ => none

/-- The name of a choice and its payload, if there is one. -/
def choice? : Json → Option (String × Option Json)
  | .text s => some (s, none)
  | .object [(s, v)] => some (s, some v)
  | _ => none

/-- A choice without payload may be given the payload null. -/
def noPayload : Option Json → Bool
  | none => true
  | some .null => true
  | some _ => false

/-! ### Values of fields -/

/-- A text. -/
def text? : Json → Option String
  | .text s => some s
  | _ => none

/-- A whole number that fits a 64-bit word and is written as one. -/
def word? : Json → Option Int64
  | .number n => n.int?.bind Text.word?
  | _ => none

/-- A double. -/
def double? : Json → Option Binary64
  | .number n => Binary64.ofNumeral? n
  | _ => none

/-- An instant, written as a text. -/
def instant? : Json → Option Instant
  | .text s => Instant.read? s.toList
  | _ => none

/-- A list of values that are all readable. -/
def list? {α : Type} (f : Json → Option α) : Json → Option (List α)
  | .array items => items.mapM f
  | _ => none

/-- An instant as a text. -/
def instant (t : Instant) : Json :=
  .text (String.ofList t.text)

/-- A list of values. -/
def list {α : Type} (f : α → Json) (xs : List α) : Json :=
  .array (xs.map f)

/-! ### Small facts -/

/-- A word reads back from its value. -/
theorem word?_word (n : Int64) : word? (word n) = some n := by
  simp only [word?, word, int, Numeral.int?_ofInt, Option.bind_some, Text.word?]
  rw [if_pos ⟨Int64.minValue_le_toInt n, Int64.toInt_le n⟩, Int64.ofInt_toInt]

/-- An array of all the fields gives each its value. -/
theorem record?_array (names : List String) (items : List Json)
    (h : items.length = names.length) :
    record? names (.array items) = some (items.map some) := by
  simp [record?, h]

end Household.Json
