import Household.Json.Record
import Household.Json.Taking

/-!
# Keys in Token Headers

The header of a token may hold a public key, an object. The key is not used, but a header with
anything else in the place of a key is not understood. A key has a type, on which it depends what
else it must have, and some common fields that it may have.

## Main results

* `Key.fits_congr`: whether the object of a key fits a type depends on the fields of that type only.
-/

namespace Household.Token

open Text

/-- An optional value: left out, null or one that can be read. -/
def isOptional {α : Type} (f : Json → Option α) : Option Json → Bool
  | none => true
  | some .null => true
  | some v => (f v).isSome

/-- Members have a field at most once, and it is left out, null or readable. -/
def hasOptional {α : Type} (f : Json → Option α) (members : List (String × Json)) (name : String) :
    Bool :=
  match Json.field? members name with
  | some v => isOptional f v
  | none => false

/-- Members have a field once, and it is readable. -/
def hasRequired {α : Type} (f : Json → Option α) (members : List (String × Json)) (name : String) :
    Bool :=
  match Json.field? members name with
  | some (some v) => (f v).isSome
  | _ => false

namespace Key

/-- A type of keys: its name, whether its keys lie on a curve, and the texts that they consist
of. -/
structure KeyType where
  name : String
  hasCurve : Bool
  texts : List String

/-- The types of keys. -/
def keyTypes : List KeyType :=
  [⟨"EC", true, ["x", "y"]⟩, ⟨"RSA", false, ["n", "e"]⟩, ⟨"oct", false, ["k"]⟩,
    ⟨"OKP", true, ["x"]⟩]

/-- The curves that a key can lie on. -/
def curves : List String := ["P-256", "P-384", "P-521", "Ed25519"]

/-- The common fields that hold a text. -/
def commonTexts : List String := ["use", "kid", "x5u", "x5t", "x5t#S256"]

/-- The common fields that hold a list of texts. -/
def commonLists : List String := ["key_ops", "x5c"]

/-- One of some choices without payload. -/
def oneOf? (names : List String) (v : Json) : Option String := do
  let (name, payload) ← Json.choice? v
  if names.contains name && Json.noPayload payload then some name else none

/-- An algorithm; any name will do, and an empty object for its payload. -/
def algorithm? (v : Json) : Option String := do
  let (name, payload) ← Json.choice? v
  match payload with
  | some (.object []) => some name
  | payload => if Json.noPayload payload then some name else none

/-- The object of a key is one of this type. -/
def fits (members : List (String × Json)) (t : KeyType) : Bool :=
  hasRequired (oneOf? [t.name]) members "kty"
    && (!t.hasCurve || hasRequired (oneOf? curves) members "crv")
    && t.texts.all (hasRequired Json.text? members)

/-- How many lists and objects may lie in each other in a field of a key. -/
def greatestDepth : Nat := 125

/-- A value is a key. -/
def isKey : Json → Bool
  | .object members =>
    (members.all fun (_, v) => v.isWhole greatestDepth)
      && commonTexts.all (hasOptional Json.text? members)
      && commonLists.all (hasOptional (Json.list? Json.text?) members)
      && hasOptional algorithm? members "alg"
      && keyTypes.any (fits members)
  | _ => false

/-- Reads a key, of which nothing is kept. -/
def read? (v : Json) : Option Unit :=
  if isKey v then some () else none

/-- Whether the object of a key fits a type depends on the fields of that type only. -/
theorem fits_congr {ms ns : List (String × Json)} {t : KeyType}
    (h : ∀ name ∈ "kty" :: "crv" :: t.texts, Json.field? ms name = Json.field? ns name) :
    fits ms t = fits ns t := by
  have hk := h "kty" (by simp)
  have hc := h "crv" (by simp)
  have ht : t.texts.all (hasRequired Json.text? ms) = t.texts.all (hasRequired Json.text? ns) := by
    rw [Bool.eq_iff_iff, List.all_eq_true, List.all_eq_true]
    refine forall_congr' fun name => forall_congr' fun hn => ?_
    rw [hasRequired, hasRequired, h name (by simp [hn])]
  simp only [fits, hasRequired, hk, hc] at ht ⊢
  rw [ht]

end Key

end Household.Token
