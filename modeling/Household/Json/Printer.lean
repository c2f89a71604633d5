import Household.Json.Reader

/-!
# Writing JSON

A value is written without white space, the members of an object in their order.

## Main results

* `ofTokens?_tokens`: the tokens of a value spell it.
-/

namespace Household.Json

mutual
/-- The tokens of a value. -/
def tokens : Json → List Token
  | .null => [.null]
  | .bool b => [.bool b]
  | .number n => [.number n]
  | .text s => [.text s]
  | .array items => .openArray :: itemTokens items
  | .object members => .openObject :: memberTokens members
  | .garbled flaw => [.garbled flaw]

/-- The tokens of the items of an array up to its end. -/
def itemTokens : List Json → List Token
  | [] => [.closeArray]
  | [v] => v.tokens ++ [.closeArray]
  | v :: w :: vs => v.tokens ++ .comma :: itemTokens (w :: vs)

/-- The tokens of the members of an object up to its end. -/
def memberTokens : List (String × Json) → List Token
  | [] => [.closeObject]
  | [(s, v)] => .text s :: .colon :: v.tokens ++ [.closeObject]
  | (s, v) :: m :: ms => .text s :: .colon :: v.tokens ++ .comma :: memberTokens (m :: ms)
end

/-- The written form of a value. -/
def written (v : Json) : List Char :=
  v.tokens.flatMap Token.written

/-! ### The tokens of a value spell it -/

/-- An array that has just been opened goes on like one without items, unless it ends at once. -/
theorem run?_firstItem_tokens (v : Json) (around : List Open) (ts : List Token) :
    (Position.firstItem around).run? (v.tokens ++ ts) =
      (Position.value (.items [] :: around)).run? (v.tokens ++ ts) := by
  cases v <;> simp [tokens, Position.run?, Position.next?, begin?]

/-- The first name of an object is read like a further one. -/
theorem run?_firstName_text (s : String) (around : List Open) (ts : List Token) :
    (Position.firstName around).run? (.text s :: ts) =
      (Position.name [] around).run? (.text s :: ts) :=
  rfl

mutual
/-- Reading the tokens of a value ends with the value. -/
theorem run?_tokens (v : Json) (around : List Open) (ts : List Token) :
    (Position.value around).run? (v.tokens ++ ts) = (Position.ended v around).run? ts := by
  match v with
  | .null => simp [tokens, Position.run?, Position.next?, begin?]
  | .bool b => simp [tokens, Position.run?, Position.next?, begin?]
  | .number n => simp [tokens, Position.run?, Position.next?, begin?]
  | .text s => simp [tokens, Position.run?, Position.next?, begin?]
  | .garbled _ => simp [tokens, Position.run?, Position.next?, begin?]
  | .array [] => simp [tokens, itemTokens, Position.run?, Position.next?, begin?]
  | .array (v :: vs) =>
    have h : (Position.value around).run? ((Json.array (v :: vs)).tokens ++ ts) =
        (Position.firstItem around).run? (itemTokens (v :: vs) ++ ts) := by
      simp [tokens, Position.run?, Position.next?, begin?]
    have hi : (Position.firstItem around).run? (itemTokens (v :: vs) ++ ts) =
        (Position.value (.items [] :: around)).run? (itemTokens (v :: vs) ++ ts) := by
      cases vs <;> simp [itemTokens, run?_firstItem_tokens]
    rw [h, hi, run?_itemTokens v vs [] around ts]
    rfl
  | .object [] => simp [tokens, memberTokens, Position.run?, Position.next?, begin?]
  | .object ((s, v) :: ms) =>
    have h : (Position.value around).run? ((Json.object ((s, v) :: ms)).tokens ++ ts) =
        (Position.firstName around).run? (memberTokens ((s, v) :: ms) ++ ts) := by
      simp [tokens, Position.run?, Position.next?, begin?]
    have hm : (Position.firstName around).run? (memberTokens ((s, v) :: ms) ++ ts) =
        (Position.name [] around).run? (memberTokens ((s, v) :: ms) ++ ts) := by
      cases ms <;> simp [memberTokens, run?_firstName_text]
    have he : ofMembers ([] ++ ((s, v) :: ms).map fun m => (some m.1, m.2)) =
        .object ((s, v) :: ms) := ofMembers_map_some _
    rw [h, hm, run?_memberTokens s v ms [] around ts, List.reverse_nil, he]
termination_by sizeOf v

/-- Reading the items of an array up to its end gives the array. -/
theorem run?_itemTokens (v : Json) (vs : List Json) (done : List Json) (around : List Open)
    (ts : List Token) :
    (Position.value (.items done :: around)).run? (itemTokens (v :: vs) ++ ts) =
      (Position.ended (.array (done.reverse ++ v :: vs)) around).run? ts := by
  match vs with
  | [] =>
    simp only [itemTokens, List.append_assoc, run?_tokens v]
    simp [Position.run?, Position.next?]
  | w :: vs =>
    simp only [itemTokens, List.append_assoc, run?_tokens v, List.cons_append]
    simp only [Position.run?, Position.next?, Option.bind_some]
    rw [run?_itemTokens w vs (v :: done) around ts]
    simp
termination_by sizeOf (v :: vs)

/-- Reading the members of an object up to its end gives the object. -/
theorem run?_memberTokens (s : String) (v : Json) (ms : List (String × Json))
    (done : List (Option String × Json)) (around : List Open) (ts : List Token) :
    (Position.name done around).run? (memberTokens ((s, v) :: ms) ++ ts) =
      (Position.ended (ofMembers (done.reverse ++ ((s, v) :: ms).map fun m => (some m.1, m.2)))
        around).run? ts := by
  match ms with
  | [] =>
    simp only [memberTokens, List.append_assoc, List.cons_append]
    simp only [Position.run?, Position.next?, Token.name?, Option.map_some, Option.bind_some,
      run?_tokens v]
    simp
  | (s', w) :: ms =>
    simp only [memberTokens, List.append_assoc, List.cons_append]
    simp only [Position.run?, Position.next?, Token.name?, Option.map_some, Option.bind_some,
      run?_tokens v]
    rw [run?_memberTokens s' w ms ((some s, v) :: done) around ts]
    simp
termination_by sizeOf ((s, v) :: ms)
end

/-- The tokens of a value spell it. -/
theorem ofTokens?_tokens (v : Json) : ofTokens? v.tokens = some v := by
  have h := run?_tokens v [] []
  rw [List.append_nil] at h
  rw [ofTokens?, h]
  rfl

end Household.Json
