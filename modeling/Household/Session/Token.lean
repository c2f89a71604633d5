import Household.Session.Key
import Household.Text.Base64Url

/-!
# Bearer Tokens

A token has three parts with points between them: a header, claims and a signature. The signature is
for the server to check; here only the claim `exp` is read, the second since 1970 at which the token
expires. A token without a readable expiry is of no use.

## Main results

* `isValid_iff`: a token is usable as long as its expiry is still to come.
-/

namespace Household.Token

open Text

/-- The part of a text before its last point and the part after it. -/
def splitLast? (cs : List Char) : Option (List Char × List Char) :=
  let after := cs.reverse.takeWhile (· ≠ '.')
  match cs.reverse.dropWhile (· ≠ '.') with
  | [] => none
  | _ :: before => some (before.reverse, after.reverse)

/-- The written header and claims of a token. -/
def parts? (token : List Char) : Option (List Char × List Char) := do
  let (message, _) ← splitLast? token
  splitLast? message

/-- The JSON value in a part of a token. -/
def decodePart? (cs : List Char) : Option Json := do
  Json.ofOctets? (← Base64Url.decode? cs)

/-! ### Headers -/

/-- The signature algorithms that a token may name. -/
def algorithms : List String :=
  ["HS256", "HS384", "HS512"]

/-- The fields of a header that hold a text or null. -/
def headerTexts : List String :=
  ["typ", "cty", "jku", "kid", "x5u", "x5t", "x5t#S256", "enc", "zip", "url", "nonce"]

/-- The fields of a header that hold a list of texts or null. -/
def headerLists : List String :=
  ["x5c", "crit"]

/-- The field of a header that may hold a key. -/
def headerKey : String := "jwk"

/-- The members of a header name an algorithm, once. -/
def namesAlgorithm (members : List (String × Json)) : Bool :=
  match Json.field? members "alg" with
  | some (some v) =>
    match Json.choice? v with
    | some (name, payload) => algorithms.contains name && Json.noPayload payload
    | none => false
  | _ => false

/-- The header names an algorithm, its other known fields hold what they should, and the unknown
ones texts. -/
def headerOk (header : Json) : Bool :=
  match header with
  | .object members =>
    namesAlgorithm members
      && headerTexts.all (hasOptional Json.text? members)
      && headerLists.all (hasOptional (Json.list? Json.text?) members)
      && hasOptional Key.read? members headerKey
      && members.all fun (name, v) =>
        ("alg" :: headerKey :: headerTexts ++ headerLists).contains name || (Json.text? v).isSome
  | _ => false

/-! ### Claims -/

/-- Whether a claim names an audience: a text or a list of texts. -/
def namesAudience : Option Json → Bool
  | some (.text _) => true
  | some (.array items) => items.all fun v => (Json.text? v).isSome
  | _ => false

/-- How many lists and objects may lie in each other in a claim that is taken in. -/
def greatestDepth : Nat := 126

/-- A claim that is taken in but not looked at. -/
def takesIn (claim : Option Json) : Bool :=
  (claim.map (Json.isPassable greatestDepth)).getD true

/-- A claim that is expected to be a single value: a list or an object is given up at its start, so
that only an empty one ends there. -/
def passesOver : Option Json → Bool
  | some (.array items) => items.isEmpty
  | some (.object members) => members.isEmpty
  | claim => takesIn claim

/-- The expiry in the claims, as seconds since 1970. The subject has to be a text; a token for an
audience is not meant for this program, which is configured for none; issuer and beginning of
validity do not matter, but must not be repeated and have to let the reader go on. -/
def claimedExpiry? (claims : Json) : Option Int64 :=
  match claims with
  | .object members => do
    match ← ["sub", "exp", "aud", "iss", "nbf"].mapM (Json.field? members) with
    | [some sub, some exp, aud, iss, nbf] =>
      let _ ← Json.text? sub
      if namesAudience aud then none
      else if takesIn aud && takesIn iss && passesOver nbf then Json.word? exp
      else none
    | _ => none
  | _ => none

/-- The expiry of a token, if it can be read and is an instant. -/
def expiry? (token : String) : Option Instant := do
  let (header, claims) ← parts? token.toList
  if headerOk (← decodePart? header) then
    let second ← claimedExpiry? (← decodePart? claims)
    Instant.ofSecond? second.toInt
  else none

/-- A token is usable as long as its expiry is still to come. -/
def isValid (token : String) (now : Instant) : Bool :=
  match expiry? token with
  | some expiry => now < expiry
  | none => false

/-- A token is usable as long as its expiry is still to come. -/
theorem isValid_iff (token : String) (now : Instant) :
    isValid token now = true ↔ ∃ expiry, expiry? token = some expiry ∧ now < expiry := by
  unfold isValid
  split <;> simp_all

end Household.Token
