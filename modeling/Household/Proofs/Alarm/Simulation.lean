import Household.Proofs.Alarm.Keeping

/-!
# Memory and Database in Step

A store in memory and one in a database that refuses nothing are given the same operations. The
rows of the database are then the rows of the alarms in memory, whatever the operations are: an
operation commutes with making rows of all alarms, and so does a sequence of operations. What either
store holds under an id was left there by the last operation about this id.

## Main results

* `Operation.get?_onTable`: what an operation does to each id.
* `performAll_memory`, `performAll_database`: the stores after a sequence of operations.
* `exists_performAll_inStep`: what both stores answer after any sequence of operations.
-/

namespace Household

/-! ### Rows of a table -/

namespace Table

variable {α β : Type} {key : α → Int64} {t : Table α}

/-- Changing every value and writing a changed value is writing the value first. -/
theorem map_insert (f : α → β) (t : Table α) (k : Int64) (a : α) :
    (t.insert k a).map f = (t.map f).insert k (f a) := by
  refine ext_get? fun k' => ?_
  simp only [get?_map, get?_insert]
  split <;> rfl

/-- Changing every value and deleting a key is deleting it first. -/
theorem map_erase (f : α → β) (t : Table α) (k : Int64) :
    (t.erase k).map f = (t.map f).erase k := by
  refine ext_get? fun k' => ?_
  simp only [get?_map, get?_erase]
  split <;> rfl

/-- A key finds among the values what it leads to. -/
theorem Keyed.find?_values (h : t.Keyed key) (k : Int64) :
    t.values.find? (key · = k) = t.get? k := by
  refine Option.ext fun a => ?_
  rw [find?_eq_some_iff_of_nodup (nodup_of_pairwise_lt h.pairwise_values), h.mem_values_iff]
  constructor
  · rintro ⟨ha, rfl⟩
    exact ha
  · intro ha
    obtain rfl := h k a ha
    exact ⟨ha, rfl⟩

end Table

/-! ### Operations -/

/-- What is done to a store. -/
inductive Operation
  /-- An alarm is written. -/
  | insert (a : Alarm)
  /-- The alarm with the id of this one is deleted. -/
  | delete (a : Alarm)
  /-- A diff is carried out. -/
  | apply (d : Diff)

namespace Operation

/-- The operation on a table of alarms. -/
def onTable (t : Table Alarm) : Operation → Table Alarm
  | .insert a => t.insert a.id a
  | .delete a => t.erase a.id
  | .apply d => Store.applyDiff t d

/-- The statements of the operation on a database. -/
def statements : Operation → List Statement
  | .insert a => [.replace a.toRow]
  | .delete a => [.delete a.id]
  | .apply d => d.statements

/-- What the operation leaves behind under an id, if it is about this id. In a diff deletions come
last, and of several insertions the last one counts. -/
def leaves? (id : Int64) : Operation → Option (Option Alarm)
  | .insert a => if a.id = id then some (some a) else none
  | .delete a => if a.id = id then some none else none
  | .apply d =>
    if id ∈ d.toDelete.map (·.id) then some none
    else (d.toInsert.reverse.find? (·.id = id)).map some

/-- **What an operation does to each id.** -/
theorem get?_onTable (t : Table Alarm) (o : Operation) (id : Int64) :
    (o.onTable t).get? id = (o.leaves? id).getD (t.get? id) := by
  cases o with
  | insert a =>
    rw [onTable, Table.get?_insert, leaves?]
    split <;> rfl
  | delete a =>
    rw [onTable, Table.get?_erase, leaves?]
    split <;> rfl
  | apply d =>
    rw [onTable, Store.get?_applyDiff, leaves?]
    split
    · rfl
    · cases d.toInsert.reverse.find? (·.id = id) <;> rfl

/-- An operation keeps every alarm under its own id. -/
theorem keyed_onTable {t : Table Alarm} (h : t.Keyed (·.id)) (o : Operation) :
    (o.onTable t).Keyed (·.id) := by
  cases o with
  | insert a => exact h.insert a
  | delete a => exact h.erase a.id
  | apply d => exact Store.keyed_foldl_erase_insert Alarm.id _ _ h

/-- A diff does nothing to a table the second time. -/
theorem onTable_apply_twice (t : Table Alarm) (d : Diff) :
    (apply d).onTable ((apply d).onTable t) = (apply d).onTable t :=
  Store.foldl_erase_insert_twice Alarm.id Alarm.id d.toInsert d.toDelete t

/-- **An operation commutes with making rows of all alarms.** -/
theorem foldl_write_statements (t : Table Alarm) (o : Operation) :
    o.statements.foldl Statement.write (t.map Alarm.toRow) = (o.onTable t).map Alarm.toRow := by
  have hinsert : ∀ (t : Table Alarm) (a : Alarm),
      (t.map Alarm.toRow).insert a.toRow.id a.toRow = (t.insert a.id a).map Alarm.toRow :=
    fun t a => (Table.map_insert Alarm.toRow t a.id a).symm
  have hdelete : ∀ (t : Table Alarm) (a : Alarm),
      (t.map Alarm.toRow).erase a.id = (t.erase a.id).map Alarm.toRow :=
    fun t a => (Table.map_erase Alarm.toRow t a.id).symm
  cases o with
  | insert a => exact hinsert t a
  | delete a => exact hdelete t a
  | apply d =>
    rw [statements, Diff.foldl_write_statements, List.foldl_map,
      List.foldl_hom (Table.map Alarm.toRow) hinsert, List.foldl_hom (Table.map Alarm.toRow) hdelete]
    rfl

/-- What the last operation about an id has left behind under it. -/
def lastLeft (ops : List Operation) (id : Int64) : Option Alarm :=
  (ops.reverse.findSome? (·.leaves? id)).join

/-- Operations keep every alarm under its own id. -/
theorem keyed_foldl_onTable (ops : List Operation) {t : Table Alarm} (h : t.Keyed (·.id)) :
    (ops.foldl onTable t).Keyed (·.id) := by
  induction ops generalizing t with
  | nil => exact h
  | cons o ops ih => exact ih (keyed_onTable h o)

/-- After some operations an id leads to what the last one about it has left behind. -/
theorem get?_foldl_onTable (ops : List Operation) (t : Table Alarm) (id : Int64) :
    (ops.foldl onTable t).get? id =
      (ops.reverse.findSome? (·.leaves? id)).getD (t.get? id) := by
  induction ops generalizing t with
  | nil => rfl
  | cons o ops ih =>
    rw [List.foldl_cons, ih, get?_onTable, List.reverse_cons, List.findSome?_append,
      List.findSome?_singleton]
    cases ops.reverse.findSome? (·.leaves? id) <;> rfl

/-- What a table holds that was empty at first. -/
theorem get?_foldl_onTable_empty (ops : List Operation) (id : Int64) :
    (ops.foldl onTable .empty).get? id = lastLeft ops id := by
  rw [get?_foldl_onTable, Table.get?_empty, lastLeft]
  cases ops.reverse.findSome? (·.leaves? id) <;> rfl

end Operation

/-! ### Operations on stores -/

/-- A database that holds these alarms and refuses nothing. -/
def Database.ofAlarms (t : Table Alarm) : Database :=
  { Database.empty with rows := t.map Alarm.toRow }

/-- Statements on a database that refuses nothing are carried out. -/
theorem Database.run?_of_willing (rows : Table Row) (ss : List Statement) :
    ({ Database.empty with rows } : Database).run? ss =
      .ok { Database.empty with rows := ss.foldl Statement.write rows } := by
  induction ss generalizing rows with
  | nil => rfl
  | cons s ss ih =>
    have hs : ({ Database.empty with rows } : Database).execute? s =
        .ok { Database.empty with rows := s.write rows } := by
      cases s <;> simp [execute?, Database.empty, Statement.write]
    rw [run?, hs]
    exact ih _

namespace Store

/-- Does an operation. -/
def perform (s : Store) : Operation → Except StoreError Store
  | .insert a => s.insert a
  | .delete a => s.delete a
  | .apply d => s.apply d

/-- Does operations one after the other. -/
def performAll (s : Store) (ops : List Operation) : Except StoreError Store :=
  ops.foldlM perform s

/-- An operation in memory. -/
theorem perform_memory (t : Table Alarm) (o : Operation) :
    (memory t).perform o = .ok (.memory (o.onTable t)) := by
  cases o <;> rfl

/-- An operation on a database that refuses nothing. -/
theorem perform_database (t : Table Alarm) (o : Operation) :
    (database (.ofAlarms t)).perform o = .ok (.database (.ofAlarms (o.onTable t))) := by
  have hcommit : (database (.ofAlarms t)).perform o = commit (.ofAlarms t) o.statements := by
    cases o <;> rfl
  rw [hcommit, commit, Database.ofAlarms, Database.run?_of_willing, o.foldl_write_statements]
  rfl

/-- **Operations in memory**, one after the other. -/
theorem performAll_memory (t : Table Alarm) (ops : List Operation) :
    (memory t).performAll ops = .ok (.memory (ops.foldl Operation.onTable t)) := by
  induction ops generalizing t with
  | nil => rfl
  | cons o ops ih =>
    rw [performAll, List.foldlM_cons, perform_memory]
    exact ih _

/-- **Operations on a database that refuses nothing**, one after the other. -/
theorem performAll_database (t : Table Alarm) (ops : List Operation) :
    (database (.ofAlarms t)).performAll ops =
      .ok (.database (.ofAlarms (ops.foldl Operation.onTable t))) := by
  induction ops generalizing t with
  | nil => rfl
  | cons o ops ih =>
    rw [performAll, List.foldlM_cons, perform_database]
    exact ih _

/-! ### What the stores answer -/

/-- A store answers as one that holds these alarms, listed by strictly ascending id, and does a diff
at once that it has just done. -/
structure Holds (s : Store) (alarms : List Alarm) : Prop where
  all_eq : s.all = .ok alarms
  ascending : (alarms.map (·.id)).Pairwise (· < ·)
  load_eq : ∀ id, s.load id = .ok (alarms.find? (·.id = id))
  apply_twice : ∀ d, ∃ s', s.apply d = .ok s' ∧ s'.apply d = .ok s'

/-- What a store in memory answers. -/
theorem holds_memory {t : Table Alarm} (h : t.Keyed (·.id)) : (memory t).Holds t.values where
  all_eq := rfl
  ascending := h.pairwise_values
  load_eq id := by rw [load, h.find?_values]
  apply_twice d := by
    have hdone := fun t => perform_memory t (.apply d)
    refine ⟨_, hdone t, (hdone _).trans ?_⟩
    rw [Operation.onTable_apply_twice]

/-- What a database answers that refuses nothing. -/
theorem holds_database {t : Table Alarm} (h : t.Keyed (·.id)) :
    (database (.ofAlarms t)).Holds (t.values.map Alarm.stored) := by
  have hall : (database (.ofAlarms t)).alarms = t.map Alarm.stored := by
    refine Table.ext_get? fun id => ?_
    simp only [alarms, Database.ofAlarms, Table.get?_map, Option.map_map]
    rfl
  have hkeyed : (t.map Alarm.stored).Keyed (·.id) := h.map fun _ => rfl
  have hvalues := Table.values_map Alarm.stored t
  refine ⟨all_eq_ok_iff.mpr ⟨rfl, ?_⟩, ?_, fun id => load_eq_ok_iff.mpr ⟨rfl, ?_⟩, fun d => ?_⟩
  · rw [hall, hvalues]
  · rw [← hvalues]
    exact hkeyed.pairwise_values
  · rw [hall, ← hvalues, hkeyed.find?_values]
  · have hdone := fun t => perform_database t (.apply d)
    refine ⟨_, hdone t, (hdone _).trans ?_⟩
    rw [Operation.onTable_apply_twice]

/-- **Memory and database in step.** After any sequence of operations on empty stores both hold the
same alarms, but for what is lost in a row, and under each id the one that was left there last. -/
theorem exists_performAll_inStep (ops : List Operation) :
    ∃ inMemory inDatabase alarms,
      (memory .empty).performAll ops = .ok inMemory ∧
      (database .empty).performAll ops = .ok inDatabase ∧
      inMemory.Holds alarms ∧ inDatabase.Holds (alarms.map Alarm.stored) ∧
      ∀ id, alarms.find? (·.id = id) = Operation.lastLeft ops id := by
  have hkeyed := Operation.keyed_foldl_onTable ops Table.Keyed.empty
  refine ⟨_, _, _, performAll_memory _ ops, performAll_database .empty ops, holds_memory hkeyed,
    holds_database hkeyed, fun id => ?_⟩
  rw [hkeyed.find?_values, Operation.get?_foldl_onTable_empty]

end Store

end Household
