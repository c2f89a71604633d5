import Household.Table
import Mathlib.Data.List.Nodup

/-!
# Tables as Finite Maps

Everything about a table follows from what its keys lead to: which values and keys it lists, and
what a sequence of writes leaves behind. A table is *keyed* when each value carries its own key, as
the rows of a database do; its values then come by strictly ascending key.

## Main results

* `mem_values_iff`, `mem_keys_iff`: what a table lists.
* `get?_foldl_insert`, `get?_foldl_erase`: what a sequence of writes leaves behind.
* `pairwise_values`: the values of a keyed table come by strictly ascending key.
-/

namespace Household.Table

variable {α β : Type}

/-! ### What a table lists -/

/-- The values are what the keys lead to. -/
theorem mem_values_iff (t : Table α) {a : α} : a ∈ t.values ↔ ∃ k, t.get? k = some a := by
  simp only [values, List.mem_map, Prod.exists, mem_entries_iff, exists_eq_right]

/-- The keys are those that lead somewhere. -/
theorem mem_keys_iff (t : Table α) {k : Int64} : k ∈ t.keys ↔ ∃ a, t.get? k = some a := by
  simp only [keys, List.mem_map, Prod.exists, mem_entries_iff, exists_eq_right, exists_and_right]

/-- A key is contained when it leads somewhere. -/
theorem contains_iff (t : Table α) (k : Int64) : t.contains k = true ↔ ∃ a, t.get? k = some a := by
  rw [contains, Option.isSome_iff_exists]

/-! ### Changing every value -/

/-- The table with a function applied to every value. -/
def map (f : α → β) (t : Table α) : Table β :=
  ⟨t.entries.map fun e => (e.1, f e.2), by
    rw [List.pairwise_map]
    exact t.ascending⟩

/-- What a key leads to after every value has been changed. -/
@[simp] theorem get?_map (f : α → β) (t : Table α) (k : Int64) :
    (t.map f).get? k = (t.get? k).map f := by
  simp only [get?, map, List.find?_map, Option.map_map]
  rfl

/-- The values after every value has been changed. -/
theorem values_map (f : α → β) (t : Table α) : (t.map f).values = t.values.map f := by
  simp only [values, map, List.map_map]
  rfl

/-! ### Sequences of writes -/

/-- After a sequence of insertions a key leads to the last value inserted under it. -/
theorem get?_foldl_insert (key : α → Int64) (l : List α) (t : Table α) (k : Int64) :
    (l.foldl (fun t a => t.insert (key a) a) t).get? k =
      (l.reverse.find? (key · = k)).or (t.get? k) := by
  induction l generalizing t with
  | nil => rfl
  | cons a l ih =>
    rw [List.foldl_cons, ih, get?_insert, List.reverse_cons, List.find?_append, Option.or_assoc]
    congr 1
    by_cases h : key a = k <;> simp [h]

/-- After a sequence of deletions the deleted keys lead nowhere, and the others where they led. -/
theorem get?_foldl_erase (key : β → Int64) (l : List β) (t : Table α) (k : Int64) :
    (l.foldl (fun t b => t.erase (key b)) t).get? k =
      if k ∈ l.map key then none else t.get? k := by
  induction l generalizing t with
  | nil => simp
  | cons b l ih =>
    rw [List.foldl_cons, ih, get?_erase]
    by_cases h : key b = k
    · simp [h]
    · simp [h, Ne.symm h]

/-! ### Keyed tables -/

/-- Every value carries the key that leads to it. -/
def Keyed (key : α → Int64) (t : Table α) : Prop :=
  ∀ k a, t.get? k = some a → key a = k

namespace Keyed

variable {key : α → Int64} {t : Table α}

/-- The table without entries is keyed. -/
theorem empty : (Table.empty : Table α).Keyed key :=
  fun _ _ h => absurd h (by simp)

/-- Writing a value under its own key keeps a table keyed. -/
theorem insert (h : t.Keyed key) (a : α) : (t.insert (key a) a).Keyed key := by
  intro k b hb
  rw [get?_insert] at hb
  split at hb
  · next hk => exact Option.some.inj hb ▸ hk
  · exact h k b hb

/-- Deleting keeps a table keyed. -/
theorem erase (h : t.Keyed key) (k : Int64) : (t.erase k).Keyed key := by
  intro k' a ha
  rw [get?_erase] at ha
  split at ha
  · exact absurd ha (by simp)
  · exact h k' a ha

/-- Changing the values without their keys keeps a table keyed. -/
theorem map (h : t.Keyed key) {f : α → β} {key' : β → Int64} (hf : ∀ a, key' (f a) = key a) :
    (t.map f).Keyed key' := by
  intro k b hb
  rw [get?_map] at hb
  obtain ⟨a, ha, rfl⟩ := Option.map_eq_some_iff.mp hb
  rw [hf, h k a ha]

/-- A value is listed when its own key leads to it. -/
theorem mem_values_iff (h : t.Keyed key) {a : α} : a ∈ t.values ↔ t.get? (key a) = some a := by
  rw [Table.mem_values_iff]
  constructor
  · rintro ⟨k, hk⟩
    rw [h k a hk, hk]
  · exact fun ha => ⟨_, ha⟩

/-- The keys of the values are the keys. -/
theorem map_values (h : t.Keyed key) : t.values.map key = t.keys := by
  simp only [values, keys, List.map_map]
  refine List.map_congr_left fun e he => ?_
  exact h e.1 e.2 ((mem_entries_iff t).mp he)

/-- A key is that of a listed value when it leads somewhere. -/
theorem mem_map_values_iff (h : t.Keyed key) {k : Int64} :
    k ∈ t.values.map key ↔ ∃ a, t.get? k = some a := by
  rw [h.map_values, mem_keys_iff]

/-- The values come by strictly ascending key. -/
theorem pairwise_values (h : t.Keyed key) : (t.values.map key).Pairwise (· < ·) := by
  rw [h.map_values, keys, List.pairwise_map]
  exact t.ascending

/-- Deleting a key takes the values with that key out of the list. -/
theorem values_erase (h : t.Keyed key) (k : Int64) :
    (t.erase k).values = t.values.filter (key · ≠ k) := by
  simp only [values, List.filter_map]
  refine congrArg _ (List.filter_congr fun e he => ?_)
  have hkey : key e.2 = e.1 := h e.1 e.2 ((mem_entries_iff t).mp he)
  simp [hkey]

end Keyed

/-! ### Lists of values with different keys -/

/-- A strictly ascending list of keys has no key twice. -/
theorem nodup_of_pairwise_lt {l : List Int64} (h : l.Pairwise (· < ·)) : l.Nodup :=
  h.imp fun hab => Int64.ne_of_lt hab

/-- No key is listed twice. -/
theorem nodup_keys (t : Table α) : t.keys.Nodup :=
  nodup_of_pairwise_lt (List.pairwise_map.mpr t.ascending)

/-- A key that no value has leads nowhere. -/
theorem find?_eq_none_iff {key : α → Int64} {l : List α} {k : Int64} :
    l.find? (key · = k) = none ↔ k ∉ l.map key := by
  simp [List.find?_eq_none]

/-- When no two values share a key, a key leads to the value that has it. -/
theorem find?_eq_some_iff_of_injOn {key : α → Int64} {l : List α}
    (hinj : ∀ a ∈ l, ∀ b ∈ l, key a = key b → a = b) {k : Int64} {a : α} :
    l.find? (key · = k) = some a ↔ a ∈ l ∧ key a = k := by
  constructor
  · intro h
    exact ⟨List.mem_of_find?_eq_some h, by simpa using List.find?_some h⟩
  · rintro ⟨ha, rfl⟩
    have hsome : (l.find? (key · = key a)).isSome = true :=
      List.find?_isSome.mpr ⟨a, ha, by simp⟩
    obtain ⟨b, hb⟩ := Option.isSome_iff_exists.mp hsome
    have hkey : key b = key a := by simpa using List.find?_some hb
    rw [hb, hinj b (List.mem_of_find?_eq_some hb) a ha hkey]

/-- When no key is repeated, a key leads to the value that has it. -/
theorem find?_eq_some_iff_of_nodup {key : α → Int64} {l : List α} (hn : (l.map key).Nodup)
    {k : Int64} {a : α} : l.find? (key · = k) = some a ↔ a ∈ l ∧ key a = k :=
  find?_eq_some_iff_of_injOn fun _ ha _ hb => List.inj_on_of_nodup_map hn ha hb

/-- When no key is repeated, a value is the only one that has its key. -/
theorem filter_eq_singleton_of_nodup {key : α → Int64} {l : List α} (hn : (l.map key).Nodup)
    {a : α} (ha : a ∈ l) : l.filter (key · = key a) = [a] := by
  obtain ⟨before, after, rfl⟩ := List.append_of_mem ha
  rw [List.map_append, List.map_cons, List.nodup_middle, ← List.map_append,
    List.nodup_cons] at hn
  have hne : ∀ b ∈ before ++ after, ¬ key b = key a := fun b hb heq =>
    hn.1 (heq ▸ List.mem_map_of_mem hb)
  have hbefore : before.filter (key · = key a) = [] :=
    List.filter_eq_nil_iff.mpr fun b hb => by simpa using hne b (List.mem_append_left _ hb)
  have hafter : after.filter (key · = key a) = [] :=
    List.filter_eq_nil_iff.mpr fun b hb => by simpa using hne b (List.mem_append_right _ hb)
  rw [List.filter_append, List.filter_cons_of_pos (by simp), hbefore, hafter, List.nil_append]

end Household.Table
