/-!
# Media Types

The header `Content-Type` names a type, a subtype and optional parameters, in visible ASCII
characters throughout. A body is taken as JSON if the subtype, up to a suffix after the last `+`, is
`json`, or if the suffix is.

## Main results

* `isJson_iff`: what a JSON media type is.
-/

namespace Household.Api

/-- The characters of a token in a header. -/
def isTokenChar (c : Char) : Bool :=
  c.isAlphanum || "!#$%&'*+-.^_|~".toList.contains c || c = '\x60'

/-- A media type without its parameters, in lower case: the type, the subtype without its suffix,
and the suffix. -/
structure MediaType where
  type : List Char
  subtype : List Char
  suffix : Option (List Char)
deriving DecidableEq, Repr

namespace MediaType

/-- Splits a subtype at its last plus sign, unless that comes first. -/
def splitSuffix (cs : List Char) : List Char × Option (List Char) :=
  let after := cs.reverse.takeWhile (· ≠ '+')
  match (cs.reverse.dropWhile (· ≠ '+')).drop 1 with
  | [] => (cs, none)
  | before => (before.reverse, some after.reverse)

/-- How the parameters of a media type are read. -/
inductive ParameterState
  /-- Before a name. -/
  | start
  | name
  /-- Before a value. -/
  | value
  | plain
  /-- In quotes, empty so far or not. -/
  | quoted (isEmpty : Bool)
  /-- After a quoted value. -/
  | closed
deriving DecidableEq, Repr

/-- The state after one more character; none if it is out of place. -/
def ParameterState.next? : ParameterState → Char → Option ParameterState
  | .start, c => if c = ' ' then some .start else if isTokenChar c then some .name else none
  | .name, c => if c = '=' then some .value else if isTokenChar c then some .name else none
  | .value, c =>
    if c = '"' then some (.quoted true) else if isTokenChar c then some .plain else none
  | .plain, c => if c = ';' then some .start else if isTokenChar c then some .plain else none
  | .quoted isEmpty, c =>
    if c = '"' ∧ isEmpty = false then some .closed
    else if c.toNat < 32 ∨ 127 ≤ c.toNat then none
    else some (.quoted false)
  | .closed, c => if c = ';' then some .start else if c = ' ' then some .closed else none

/-- The parameters may end here. -/
def ParameterState.mayEnd : ParameterState → Bool
  | .start => true
  | .value => true
  | .plain => true
  | .closed => true
  | _ => false

/-- Parameters, each after a semicolon, are in order. -/
def parametersOk (cs : List Char) : Bool :=
  match cs.foldlM ParameterState.next? .start with
  | some s => s.mayEnd
  | none => false

/-- Reads a media type. -/
def read? (cs : List Char) : Option MediaType :=
  let type := cs.takeWhile isTokenChar
  match cs.dropWhile isTokenChar with
  | '/' :: rest =>
    let subtype := rest.takeWhile isTokenChar
    let (subtype, suffix) := splitSuffix (subtype.map Char.toLower)
    let parameters := rest.dropWhile isTokenChar
    if type ≠ [] ∧ (subtype ≠ [] ∨ parameters = []) then
      match parameters with
      | [] => some ⟨type.map Char.toLower, subtype, suffix⟩
      | ';' :: ps =>
        if parametersOk ps then some ⟨type.map Char.toLower, subtype, suffix⟩ else none
      | _ => none
    else none
  | _ => none

/-- Bodies of this media type are JSON. -/
def isJson (m : MediaType) : Bool :=
  m.subtype = "json".toList || m.suffix = some "json".toList

/-- A JSON media type has `json` as its subtype or as its suffix. -/
theorem isJson_iff (m : MediaType) :
    m.isJson = true ↔ m.subtype = "json".toList ∨ m.suffix = some "json".toList := by
  simp [isJson]

end MediaType

end Household.Api
