import Household.Json.Record
import Mathlib.Data.List.Nodup

/-!
# Fields of Objects

Names can be repeated in an object. A field is readable if its name is there at most once, and every
field is if no name is repeated. Two kinds of values that fields hold are the texts and the lists of
texts.

## Main results

* `field?_eq_some_iff`, `field?_eq_none_iff`: when a field is readable, and what it is.
* `isSome_text?_iff`, `isSome_list?_text?_iff`: what reads as a text and as a list of texts.
-/

namespace Household.Json

/-- The field of an object is readable if it is there at most once, and it is what is there. -/
theorem field?_eq_some_iff {members : List (String × Json)} {name : String} {value : Option Json} :
    field? members name = some value ↔
      (members.filter (·.1 = name)).length ≤ 1 ∧ ∀ v, value = some v ↔ (name, v) ∈ members := by
  have hmem : ∀ v, (name, v) ∈ members ↔ (name, v) ∈ members.filter (·.1 = name) := fun v => by
    simp
  have hname : ∀ m ∈ members.filter (·.1 = name), m.1 = name := fun m hm =>
    of_decide_eq_true (List.mem_filter.mp hm).2
  simp only [field?, hmem]
  generalize members.filter (·.1 = name) = found at hname ⊢
  match found with
  | [] => cases value <;> simp
  | [m] =>
    obtain rfl : m.1 = name := hname m (by simp)
    cases value with
    | none => simp
    | some v =>
      simp only [Prod.ext_iff, List.mem_singleton, true_and, Option.some.injEq]
      refine ⟨fun h => ⟨Nat.le_refl 1, fun w => ?_⟩, fun h => ((h.2 v).mp rfl).symm⟩
      rw [← h, eq_comm]
  | m :: n :: rest => simp

/-- The field of an object is not readable if it is there several times. -/
theorem field?_eq_none_iff {members : List (String × Json)} {name : String} :
    field? members name = none ↔ 1 < (members.filter (·.1 = name)).length := by
  rw [field?]
  generalize members.filter (·.1 = name) = found
  match found with
  | [] => simp
  | [m] => simp
  | m :: n :: rest => simp

/-- An object without repeated names has every field at most once. -/
theorem length_filter_le_one {members : List (String × Json)}
    (h : (members.map Prod.fst).Nodup) (name : String) :
    (members.filter (·.1 = name)).length ≤ 1 := by
  have hcount := List.nodup_iff_count_le_one.mp h name
  rw [List.count, List.countP_map, List.countP_eq_length_filter] at hcount
  exact hcount

/-- Without repeated names every field is readable. -/
theorem exists_field?_eq_some {members : List (String × Json)}
    (h : (members.map Prod.fst).Nodup) (name : String) :
    ∃ value, field? members name = some value ∧ ∀ v, value = some v ↔ (name, v) ∈ members := by
  cases hvalue : field? members name with
  | none =>
    have hone := length_filter_le_one h name
    exact absurd (field?_eq_none_iff.mp hvalue) (Nat.not_lt.mpr hone)
  | some value => exact ⟨value, rfl, (field?_eq_some_iff.mp hvalue).2⟩

/-- The value is a text. -/
def IsText (v : Json) : Prop :=
  ∃ s, v = .text s

/-- The value is a list of texts. -/
def IsTexts (v : Json) : Prop :=
  ∃ ss : List String, v = .array (ss.map .text)

/-- The texts are what reads as a text. -/
theorem isSome_text?_iff {v : Json} : (text? v).isSome = true ↔ v.IsText := by
  cases v <;> simp [text?, IsText]

/-- All items of a list are texts if it is a list of texts. -/
theorem isTexts_array_iff {items : List Json} :
    (Json.array items).IsTexts ↔ ∀ v ∈ items, v.IsText := by
  simp only [IsTexts, array.injEq]
  refine ⟨?_, fun h => ?_⟩
  · rintro ⟨ss, rfl⟩ v hv
    obtain ⟨s, -, rfl⟩ := List.mem_map.mp hv
    exact ⟨s, rfl⟩
  · induction items with
    | nil => exact ⟨[], rfl⟩
    | cons v vs ih =>
      obtain ⟨⟨s, rfl⟩, hvs⟩ := List.forall_mem_cons.mp h
      obtain ⟨ss, rfl⟩ := ih hvs
      exact ⟨s :: ss, rfl⟩

/-- The lists of texts are what reads as a list of texts. -/
theorem isSome_list?_text?_iff {v : Json} : (list? text? v).isSome = true ↔ v.IsTexts := by
  cases v with
  | array items =>
    rw [isTexts_array_iff, list?]
    simp only [← isSome_text?_iff]
    induction items with
    | nil => simp
    | cons v vs ih =>
      rw [List.forall_mem_cons, ← ih, List.mapM_cons]
      cases text? v <;> cases vs.mapM text? <;> simp
  | _ => simp [list?, IsTexts]

end Household.Json
