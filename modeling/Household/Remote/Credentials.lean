import Household.Json.Record

/-!
# Credentials

The user name and password with which the program logs in at the scheduling server.

## Main results

* `Credentials.ofJson?_toJson`: credentials are read back from what is written.
-/

namespace Household

open Json

/-- A user name and password. -/
structure Credentials where
  username : String
  password : String
deriving DecidableEq, Repr

/-- Credentials as an object. -/
def Credentials.toJson (c : Credentials) : Json :=
  .object [("username", .text c.username), ("password", .text c.password)]

/-- Reads credentials. -/
def Credentials.ofJson? (v : Json) : Option Credentials := do
  match ← record? ["username", "password"] v with
  | [some username, some password] =>
    return { username := ← text? username, password := ← text? password }
  | _ => none

/-- Credentials are read back from what is written. -/
theorem Credentials.ofJson?_toJson (c : Credentials) : ofJson? c.toJson = some c := by
  simp [ofJson?, toJson, record?, field?, text?]

end Household
