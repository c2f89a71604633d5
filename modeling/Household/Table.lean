/-!
# Tables

A table holds at most one value per key and lists its entries by ascending key. Keys are 64-bit
words. A table is what it answers: two tables that give the same value for every key are equal.

## Main results

* `get?_insert`, `get?_erase`: what a write does to every key.
* `mem_entries_iff`: the entries are the keys with their values.
* `Table.ext_get?`: tables with the same answers are equal.
-/

namespace Household

/-- Entries by strictly ascending key. -/
structure Table (α : Type) where
  entries : List (Int64 × α)
  ascending : entries.Pairwise (fun a b => a.1 < b.1)

namespace Table

variable {α : Type}

/-- Writes an entry into an ascending list, in place of one with the same key. -/
def insertEntry (k : Int64) (a : α) : List (Int64 × α) → List (Int64 × α)
  | [] => [(k, a)]
  | (k', a') :: r =>
    if k < k' then (k, a) :: (k', a') :: r
    else if k = k' then (k, a) :: r
    else (k', a') :: insertEntry k a r

/-- What is in a list after inserting is the new entry or was there before. -/
theorem mem_insertEntry {k : Int64} {a : α} {l : List (Int64 × α)} {e : Int64 × α}
    (h : e ∈ insertEntry k a l) : e = (k, a) ∨ e ∈ l := by
  induction l with
  | nil => simpa [insertEntry] using h
  | cons x r ih =>
    unfold insertEntry at h
    split at h
    · simpa using h
    · split at h
      · rcases List.mem_cons.1 h with h | h
        · exact .inl h
        · exact .inr (List.mem_cons_of_mem _ h)
      · rcases List.mem_cons.1 h with h | h
        · exact .inr (h ▸ List.mem_cons_self)
        · exact (ih h).imp id (List.mem_cons_of_mem _)

/-- Inserting keeps the keys ascending. -/
theorem ascending_insertEntry (k : Int64) (a : α) {l : List (Int64 × α)}
    (h : l.Pairwise (fun a b => a.1 < b.1)) :
    (insertEntry k a l).Pairwise (fun a b => a.1 < b.1) := by
  induction l with
  | nil => simp [insertEntry]
  | cons x r ih =>
    obtain ⟨hx, hr⟩ := List.pairwise_cons.1 h
    unfold insertEntry
    split
    · next hk =>
      refine List.pairwise_cons.2 ⟨fun e he => ?_, h⟩
      rcases List.mem_cons.1 he with rfl | he
      · exact hk
      · exact Int64.lt_trans hk (hx e he)
    · split
      · next hk => exact List.pairwise_cons.2 ⟨fun e he => hk ▸ hx e he, hr⟩
      · next hn hk =>
        refine List.pairwise_cons.2 ⟨fun e he => ?_, ih hr⟩
        rcases mem_insertEntry he with rfl | he
        · exact Int64.lt_of_le_of_ne (Int64.not_lt.1 hn) (Ne.symm hk)
        · exact hx e he

/-- The table without entries. -/
def empty : Table α := ⟨[], .nil⟩

/-- The value of a key. -/
def get? (t : Table α) (k : Int64) : Option α :=
  (t.entries.find? (·.1 = k)).map (·.2)

/-- Writes the value of a key. -/
def insert (t : Table α) (k : Int64) (a : α) : Table α :=
  ⟨insertEntry k a t.entries, ascending_insertEntry k a t.ascending⟩

/-- Removes a key; nothing happens if it has no value. -/
def erase (t : Table α) (k : Int64) : Table α :=
  ⟨t.entries.filter (·.1 ≠ k), t.ascending.filter _⟩

/-- Keeps the entries of which the value passes a test. -/
def filter (p : α → Bool) (t : Table α) : Table α :=
  ⟨t.entries.filter fun e => p e.2, t.ascending.filter _⟩

/-- The keys, ascending. -/
def keys (t : Table α) : List Int64 :=
  t.entries.map (·.1)

/-- The values by ascending key. -/
def values (t : Table α) : List α :=
  t.entries.map (·.2)

/-- Whether a key has a value. -/
def contains (t : Table α) (k : Int64) : Bool :=
  (t.get? k).isSome

/-! ### What a write does -/

/-- After inserting, the key leads to the new value and every other key where it led before. -/
theorem find?_insertEntry (k k' : Int64) (a : α) {l : List (Int64 × α)}
    (h : l.Pairwise (fun a b => a.1 < b.1)) :
    (insertEntry k a l).find? (·.1 = k') =
      if k = k' then some (k, a) else l.find? (·.1 = k') := by
  induction l with
  | nil => by_cases hk : k = k' <;> simp [insertEntry, hk]
  | cons x r ih =>
    obtain ⟨_, hr⟩ := List.pairwise_cons.1 h
    unfold insertEntry
    split
    · by_cases hk : k = k' <;> simp [hk]
    · split
      · next hx => by_cases hk : k = k' <;> simp_all
      · next hx =>
        by_cases hk : x.1 = k'
        · obtain ⟨xk, xa⟩ := x
          obtain rfl : xk = k' := hk
          simp [hx]
        · simp [hk, ih hr]

/-- What a key leads to after inserting. -/
@[simp] theorem get?_insert (t : Table α) (k k' : Int64) (a : α) :
    (t.insert k a).get? k' = if k = k' then some a else t.get? k' := by
  simp only [get?, insert, find?_insertEntry k k' a t.ascending]
  split <;> rfl

/-- What a key leads to after erasing. -/
@[simp] theorem get?_erase (t : Table α) (k k' : Int64) :
    (t.erase k).get? k' = if k = k' then none else t.get? k' := by
  simp only [get?, erase, List.find?_filter]
  split
  · next h =>
    subst h
    rw [List.find?_eq_none.2 (by simp)]
    rfl
  · next h =>
    congr 2
    funext e
    by_cases he : e.1 = k'
    · simp [he, Ne.symm h]
    · simp [he]

/-- An empty table leads nowhere. -/
@[simp] theorem get?_empty (k : Int64) : (empty : Table α).get? k = none := rfl

/-- The entries are what the keys lead to. -/
theorem mem_entries_iff (t : Table α) {k : Int64} {a : α} :
    (k, a) ∈ t.entries ↔ t.get? k = some a := by
  obtain ⟨l, hl⟩ := t
  simp only [get?]
  induction l with
  | nil => simp
  | cons x r ih =>
    obtain ⟨hx, hr⟩ := List.pairwise_cons.1 hl
    by_cases hk : x.1 = k
    · have hn : (k, a) ∉ r := fun h => Int64.lt_irrefl (hk ▸ hx _ h)
      simp only [List.mem_cons, hn, or_false, hk, decide_true, List.find?_cons_of_pos,
        Option.map_some, Option.some.injEq]
      exact ⟨fun h => h ▸ rfl, fun h => by rw [← hk, ← h]⟩
    · have hn : (k, a) ≠ x := fun h => hk (by rw [← h])
      simp [List.mem_cons, hn, hk, ih hr]

/-- What a key leads to after the values that fail a test have been removed. -/
@[simp] theorem get?_filter (p : α → Bool) (t : Table α) (k : Int64) :
    (t.filter p).get? k = (t.get? k).filter p := by
  ext a
  rw [← mem_entries_iff, filter, List.mem_filter, mem_entries_iff, Option.filter_eq_some_iff]

/-- No entry occurs twice. -/
theorem nodup_entries (t : Table α) : t.entries.Nodup :=
  List.Pairwise.imp (S := (· ≠ ·)) (fun hab e => Int64.lt_irrefl (e ▸ hab)) t.ascending

/-- Tables with the same answers are equal. -/
theorem ext_get? {t u : Table α} (h : ∀ k, t.get? k = u.get? k) : t = u := by
  obtain ⟨l, hl⟩ := t
  obtain ⟨m, hm⟩ := u
  have hmem : ∀ e, e ∈ l ↔ e ∈ m := by
    intro (k, a)
    rw [show ((k, a) ∈ l) = ((k, a) ∈ (⟨l, hl⟩ : Table α).entries) from rfl,
      show ((k, a) ∈ m) = ((k, a) ∈ (⟨m, hm⟩ : Table α).entries) from rfl,
      mem_entries_iff, mem_entries_iff, h k]
  have hp : l.Perm m :=
    (List.perm_ext_iff_of_nodup (nodup_entries ⟨l, hl⟩) (nodup_entries ⟨m, hm⟩)).2 hmem
  have : l = m := hp.eq_of_pairwise (fun a b _ _ hab hba => absurd hba (Int64.lt_asymm hab)) hl hm
  subst this
  rfl

end Table

end Household
