import Household.Json.Token

/-!
# Reading JSON

The tokens of a text are read one by one by a machine with a stack of open arrays and objects, so
that nesting is limited by nothing but the text. A text is one value and nothing else.
-/

namespace Household.Json

/-- An array or object that is still open, with what has been read of it, last first. -/
inductive Open
  /-- An array, before its next item. -/
  | items (done : List Json)
  /-- An object, before the value of a name; a garbled name is no name. -/
  | member (done : List (Option String × Json)) (name : Option String)

/-- Where a reading stands: what may come next, and what is open around it. -/
inductive Position
  /-- A value has to come. -/
  | value (around : List Open)
  /-- The first item of an array or its end has to come. -/
  | firstItem (around : List Open)
  /-- The first name of an object or its end has to come. -/
  | firstName (around : List Open)
  /-- A further name of an object has to come. -/
  | name (done : List (Option String × Json)) (around : List Open)
  /-- The colon after a name has to come. -/
  | colon (done : List (Option String × Json)) (name : Option String) (around : List Open)
  /-- A value has ended. -/
  | ended (v : Json) (around : List Open)

/-- The position after the first token of a value. -/
def begin? (around : List Open) : Token → Option Position
  | .openArray => some (.firstItem around)
  | .openObject => some (.firstName around)
  | .null => some (.ended .null around)
  | .bool b => some (.ended (.bool b) around)
  | .number n => some (.ended (.number n) around)
  | .text s => some (.ended (.text s) around)
  | .garbled flaw => some (.ended (.garbled flaw) around)
  | _ => none

/-- The name that a token is. -/
def Token.name? : Token → Option (Option String)
  | .text s => some (some s)
  | .garbled _ => some none
  | _ => none

/-- The object with these members. Whoever wants a garbled name of it gives up there. -/
def ofMembers (members : List (Option String × Json)) : Json :=
  match members.mapM fun (name, v) => name.map (·, v) with
  | some members => .object members
  | none => .garbled .within

/-- The position after one more token. -/
def Position.next? : Position → Token → Option Position
  | .value around, t => begin? around t
  | .firstItem around, .closeArray => some (.ended (.array []) around)
  | .firstItem around, t => begin? (.items [] :: around) t
  | .firstName around, .closeObject => some (.ended (.object []) around)
  | .firstName around, t => t.name?.map (.colon [] · around)
  | .name done around, t => t.name?.map (.colon done · around)
  | .colon done s around, .colon => some (.value (.member done s :: around))
  | .ended v (.items done :: around), .comma => some (.value (.items (v :: done) :: around))
  | .ended v (.items done :: around), .closeArray =>
    some (.ended (.array (v :: done).reverse) around)
  | .ended v (.member done s :: around), .comma => some (.name ((s, v) :: done) around)
  | .ended v (.member done s :: around), .closeObject =>
    some (.ended (ofMembers ((s, v) :: done).reverse) around)
  | _, _ => none

/-- The position after a sequence of tokens. -/
def Position.run? : Position → List Token → Option Position
  | p, [] => some p
  | p, t :: ts => (p.next? t).bind (·.run? ts)

/-- The value that a sequence of tokens spells. -/
def ofTokens? (ts : List Token) : Option Json :=
  match (Position.value []).run? ts with
  | some (.ended v []) => some v
  | _ => none

/-- The value that symbols spell. -/
def ofSymbols? (cs : List Symbol) : Option Json :=
  (tokens? cs).bind ofTokens?

/-- The value that a text spells. -/
def read? (cs : List Char) : Option Json :=
  ofSymbols? (cs.map .char)

/-- The value that octets spell. -/
def ofOctets? (octets : List UInt8) : Option Json :=
  ofSymbols? (Symbol.ofOctets octets)

/-- Members that have names make an object. -/
theorem ofMembers_map_some (members : List (String × Json)) :
    ofMembers (members.map fun m => (some m.1, m.2)) = .object members := by
  have h : ∀ ms : List (String × Json),
      ((ms.map fun m => (some m.1, m.2)).mapM fun m : Option String × Json =>
        m.1.map (·, m.2)) = some ms := by
    intro ms
    induction ms with
    | nil => rfl
    | cons m ms ih => simp [ih]
  unfold ofMembers
  rw [h]

/-- Reading goes on from where it stood. -/
theorem Position.run?_append (p : Position) (ts us : List Token) :
    p.run? (ts ++ us) = (p.run? ts).bind (·.run? us) := by
  induction ts generalizing p with
  | nil => rfl
  | cons t ts ih =>
    simp only [List.cons_append, run?]
    cases p.next? t with
    | none => rfl
    | some q => exact ih q

end Household.Json
