import Household.Text.Decimal
import Household.Text.Percent
import Household.Text.Split

/-!
# Endpoints

The requests that the program answers for its own clients, told apart by method and path. A query is
ignored, and so are scheme and host if they are named; anything else about the path has to match
exactly. A path may be percent encoded. Slashes, plus signs and percent signs stay encoded until the
path has been taken apart, so that they separate nothing; in an id they are decoded then.

## Main results

* `withoutQuery_append`: a query does not matter.
* `withoutOrigin_slash`: a path that starts with a slash names no host.
-/

namespace Household.Api

open Text

/-- A request of a client. -/
structure Request where
  method : String
  path : String
  contentType : Option String
  body : String
deriving DecidableEq, Repr

/-- What is asked for. -/
inductive Endpoint
  /-- The overview of all devices. -/
  | overview
  /-- The histories of all devices. -/
  | histories
  /-- The history of one device, if its id can be read. -/
  | history (id : Option Int64)
  /-- The stored alarms. -/
  | alarms
  /-- A new task. -/
  | newTask
deriving DecidableEq, Repr

namespace Endpoint

/-- A path without its query. -/
def withoutQuery (path : List Char) : List Char :=
  path.takeWhile fun c => c ≠ '?' && c ≠ '#'

/-- The characters of which names of schemes are made. -/
def isSchemeChar (c : Char) : Bool :=
  c.isAlphanum || c = '+' || c = '-' || c = '.'

/-- A path without the scheme and host that may be named in front of it. -/
def withoutOrigin (target : List Char) : List Char :=
  match target.dropWhile isSchemeChar with
  | ':' :: '/' :: '/' :: cs => cs.dropWhile fun c => c ≠ '/' && c ≠ '?' && c ≠ '#'
  | _ => target

/-- The characters of a path that stay encoded until it has been taken apart. -/
def stayEncoded : List Char := ['%', '/', '+']

/-- The decoded segments of a path. -/
def pathSegments (path : String) : List String :=
  let path := withoutQuery (withoutOrigin path.toList)
  (splitAt (· = '/') (percentDecode stayEncoded path)).map String.ofList

/-- The id in a segment of a path. -/
def id? (segment : String) : Option Int64 :=
  readWord? (percentDecode [] segment.toList)

/-- The endpoint of a request, if there is one. -/
def ofRequest? (r : Request) : Option Endpoint :=
  match r.method, pathSegments r.path with
  | "GET", ["", "api", "overview"] => some .overview
  | "GET", ["", "api", "devices", "tasks"] => some .histories
  | "GET", ["", "api", "devices", id, "tasks"] =>
    if id = "" then none else some (.history (id? id))
  | "GET", ["", "api", "alarms"] => some .alarms
  | "POST", ["", "api", "tasks"] => some .newTask
  | _, _ => none

/-- A query does not matter. -/
theorem withoutQuery_append (path query : List Char)
    (h : ∀ c ∈ path, c ≠ '?' ∧ c ≠ '#') : withoutQuery (path ++ '?' :: query) = path := by
  simp only [withoutQuery]
  rw [List.takeWhile_append_of_pos (by simpa using h)]
  simp

/-- A path that starts with a slash names no host. -/
theorem withoutOrigin_slash (path : List Char) : withoutOrigin ('/' :: path) = '/' :: path :=
  rfl

end Endpoint

end Household.Api
