import Household.Alarm.Store
import Household.Proofs.Table

/-!
# Stores as Tables of Alarms

Both kinds of store are read as a table of alarms. Memory keeps an alarm as it is, a database keeps
what is left of it in a row; but for that, both do the same with a diff.

## Main results

* `all_eq_ok_iff`, `load_eq_ok_iff`: reading a store is reading its table.
* `eq_written_of_apply`: a diff that is carried out is carried out as a whole.
* `get?_alarms_written`: what a diff leaves behind under each id.
* `isOfUse_of_eq_error`: the errors with which a store can answer.
* `Keyed.written`, `Keyed.insert`, `Keyed.delete`: all writes keep every alarm under its own id.
-/

namespace Household

/-! ### Statements -/

/-- The rows after a statement that was not refused. -/
def Statement.write (rows : Table Row) : Statement → Table Row
  | .replace row => rows.insert row.id row
  | .delete id => rows.erase id

/-- A statement that is carried out writes the rows and nothing else. -/
theorem Database.eq_of_execute? {db db' : Database} {s : Statement}
    (h : db.execute? s = .ok db') : db' = { db with rows := s.write db.rows } := by
  rw [execute?.eq_def] at h
  cases hout : db.outage? with
  | some outage =>
    rw [hout] at h
    cases h
  | none =>
    rw [hout] at h
    cases s with
    | replace row =>
      dsimp only at h
      split at h
      · cases h
      · exact (Except.ok.inj h).symm
    | delete id =>
      dsimp only at h
      split at h
      · cases h
      · exact (Except.ok.inj h).symm

/-- Statements that are carried out write the rows one after the other. -/
theorem Database.eq_of_run? {db db' : Database} {ss : List Statement}
    (h : db.run? ss = .ok db') : db' = { db with rows := ss.foldl Statement.write db.rows } := by
  induction ss generalizing db with
  | nil =>
    obtain rfl := Except.ok.inj h
    rfl
  | cons s ss ih =>
    rw [run?] at h
    cases hs : db.execute? s with
    | error e =>
      rw [hs] at h
      exact absurd h (by simp [Except.bind])
    | ok mid =>
      rw [hs] at h
      rw [ih h, eq_of_execute? hs]
      rfl

/-- Statements fail at the first one that the database refuses after those before it. -/
theorem Database.run?_eq_error_iff {db : Database} {ss : List Statement} {e : StoreError} :
    db.run? ss = .error e ↔
      ∃ before s after mid, ss = before ++ s :: after ∧ db.run? before = .ok mid ∧
        mid.execute? s = .error e := by
  constructor
  · intro h
    induction ss generalizing db with
    | nil => cases h
    | cons s ss ih =>
      rw [run?] at h
      cases hs : db.execute? s with
      | error e' =>
        rw [hs] at h
        obtain rfl := Except.error.inj h
        exact ⟨[], s, ss, db, rfl, rfl, hs⟩
      | ok next =>
        rw [hs] at h
        obtain ⟨before, s', after, mid, rfl, hrun, hrefused⟩ := ih h
        refine ⟨s :: before, s', after, mid, rfl, ?_, hrefused⟩
        rw [run?, hs]
        exact hrun
  · rintro ⟨before, s, after, mid, rfl, hrun, hrefused⟩
    rw [run?_append, hrun, Except.bind, run?, hrefused]
    rfl

/-- The error comes of the use of a store. The other two do not: nothing that is done under the lock
can panic, and the table is made before there is a store. -/
def StoreError.IsOfUse : StoreError → Prop
  | .pool _ => True
  | .query _ => True
  | .migration _ => False
  | .poisoned => False

/-- A database that answers nothing says so. -/
theorem Outage.isOfUse_error (o : Outage) : o.error.IsOfUse := by
  cases o <;> trivial

/-- A statement fails for a database that answers nothing or refuses it. -/
theorem Database.isOfUse_of_execute? {db : Database} {s : Statement} {e : StoreError}
    (h : db.execute? s = .error e) : e.IsOfUse := by
  rw [execute?.eq_def] at h
  split at h
  · obtain rfl := Except.error.inj h
    exact Outage.isOfUse_error _
  · split at h
    · obtain rfl := Except.error.inj h
      trivial
    · cases h
  · split at h
    · obtain rfl := Except.error.inj h
      trivial
    · cases h

/-- The rows cannot be looked at if the database answers nothing. -/
theorem Database.isOfUse_of_map_rows? {α : Type} {db : Database} {f : Table Row → α}
    {e : StoreError} (h : db.rows?.map f = .error e) : e.IsOfUse := by
  rw [rows?] at h
  split at h
  · obtain rfl := Except.error.inj h
    exact Outage.isOfUse_error _
  · cases h

/-- The rows after the statements of a diff: its alarms inserted, then its ids deleted. -/
theorem Diff.foldl_write_statements (d : Diff) (rows : Table Row) :
    d.statements.foldl Statement.write rows =
      d.toDelete.foldl (fun t a => t.erase a.id)
        ((d.toInsert.map Alarm.toRow).foldl (fun t r => t.insert r.id r) rows) := by
  rw [Diff.statements, List.foldl_append, List.foldl_map, List.foldl_map, List.foldl_map]
  rfl

namespace Store

/-! ### Reading -/

/-- The alarms of a store by id, as they are read from it. -/
def alarms : Store → Table Alarm
  | .memory alarms => alarms
  | .database db => db.rows.map Row.toAlarm

/-- The store can be read. -/
def IsOpen : Store → Prop
  | .memory _ => True
  | .database db => db.outage? = none

/-- What an alarm becomes by being kept in the store. -/
def keep : Store → Alarm → Alarm
  | .memory _, a => a
  | .database _, a => a.stored

/-- Every alarm is kept under its own id. -/
def Keyed : Store → Prop
  | .memory alarms => alarms.Keyed (·.id)
  | .database db => db.rows.Keyed (·.id)

/-- The alarms that are read from a keyed store come under their own ids. -/
theorem Keyed.alarms {s : Store} (h : s.Keyed) : s.alarms.Keyed (·.id) := by
  cases s with
  | memory alarms => exact h
  | database db => exact Table.Keyed.map h fun _ => rfl

/-- All alarms are those of the table. -/
theorem all_eq_ok_iff {s : Store} {l : List Alarm} :
    s.all = .ok l ↔ s.IsOpen ∧ s.alarms.values = l := by
  cases s with
  | memory alarms => simp [all, IsOpen, Store.alarms]
  | database db =>
    cases h : db.outage? <;>
      simp [all, IsOpen, Store.alarms, Database.rows?, h, Except.map, Table.values_map]

/-- The alarm with an id is the one that the table has. -/
theorem load_eq_ok_iff {s : Store} {id : Int64} {o : Option Alarm} :
    s.load id = .ok o ↔ s.IsOpen ∧ s.alarms.get? id = o := by
  cases s with
  | memory alarms => simp [load, IsOpen, Store.alarms]
  | database db =>
    cases h : db.outage? <;>
      simp [load, IsOpen, Store.alarms, Database.rows?, h, Except.map]

/-! ### Carrying out a diff -/

/-- The store after a diff of which nothing was refused. -/
def written (d : Diff) : Store → Store
  | .memory alarms => .memory (applyDiff alarms d)
  | .database db => .database { db with rows := d.statements.foldl Statement.write db.rows }

/-- Statements that are committed write the rows one after the other. -/
theorem eq_of_commit {db : Database} {s' : Store} {ss : List Statement}
    (h : commit db ss = .ok s') :
    s' = .database { db with rows := ss.foldl Statement.write db.rows } := by
  rw [commit] at h
  cases hrun : db.run? ss with
  | error e =>
    rw [hrun] at h
    cases h
  | ok db' =>
    rw [hrun] at h
    obtain rfl := Except.ok.inj h
    rw [Database.eq_of_run? hrun]

/-- A diff that is carried out is carried out as a whole. -/
theorem eq_written_of_apply {s s' : Store} {d : Diff} (h : s.apply d = .ok s') :
    s' = s.written d := by
  cases s with
  | memory alarms => exact (Except.ok.inj h).symm
  | database db => exact eq_of_commit h

/-- Statements that are not committed fail for an error of use. -/
theorem isOfUse_of_commit {db : Database} {ss : List Statement} {e : StoreError}
    (h : commit db ss = .error e) : e.IsOfUse := by
  rw [commit] at h
  cases hrun : db.run? ss with
  | ok db' =>
    rw [hrun] at h
    cases h
  | error e' =>
    rw [hrun] at h
    obtain rfl := Except.error.inj h
    obtain ⟨_, _, _, _, -, -, hrefused⟩ := Database.run?_eq_error_iff.mp hrun
    exact Database.isOfUse_of_execute? hrefused

/-- **A store that fails fails for an error of use**, whatever is asked of it. -/
theorem isOfUse_of_eq_error {s : Store} {e : StoreError}
    (h : s.all = .error e ∨ (∃ id, s.load id = .error e) ∨ (∃ a, s.insert a = .error e) ∨
      (∃ a, s.delete a = .error e) ∨ ∃ d, s.apply d = .error e) : e.IsOfUse := by
  cases s with
  | memory alarms => rcases h with h | ⟨_, h⟩ | ⟨_, h⟩ | ⟨_, h⟩ | ⟨_, h⟩ <;> cases h
  | database db =>
    rcases h with h | ⟨_, h⟩ | ⟨_, h⟩ | ⟨_, h⟩ | ⟨_, h⟩
    · exact Database.isOfUse_of_map_rows? h
    · exact Database.isOfUse_of_map_rows? h
    · exact isOfUse_of_commit h
    · exact isOfUse_of_commit h
    · exact isOfUse_of_commit h

/-- What a sequence of insertions and deletions leaves behind under each key. -/
theorem get?_foldl_erase_insert {α β : Type} (key : α → Int64) (key' : β → Int64) (ins : List α)
    (del : List β) (t : Table α) (k : Int64) :
    (del.foldl (fun t b => t.erase (key' b)) (ins.foldl (fun t a => t.insert (key a) a) t)).get? k =
      if k ∈ del.map key' then none else (ins.reverse.find? (key · = k)).or (t.get? k) := by
  rw [Table.get?_foldl_erase, Table.get?_foldl_insert]

/-- A sequence of insertions and deletions does nothing the second time. -/
theorem foldl_erase_insert_twice {α β : Type} (key : α → Int64) (key' : β → Int64) (ins : List α)
    (del : List β) (t : Table α) :
    let write := fun t : Table α =>
      del.foldl (fun t b => t.erase (key' b)) (ins.foldl (fun t a => t.insert (key a) a) t)
    write (write t) = write t := by
  intro write
  refine Table.ext_get? fun k => ?_
  simp only [write, get?_foldl_erase_insert]
  split
  · rfl
  · cases ins.reverse.find? (key · = k) <;> rfl

/-- A sequence of insertions and deletions keeps every value under its own key. -/
theorem keyed_foldl_erase_insert {α β : Type} {key : α → Int64} (key' : β → Int64) (ins : List α)
    (del : List β) {t : Table α} (h : t.Keyed key) :
    (del.foldl (fun t b => t.erase (key' b))
      (ins.foldl (fun t a => t.insert (key a) a) t)).Keyed key := by
  intro k a ha
  rw [get?_foldl_erase_insert] at ha
  split at ha
  · exact absurd ha (by simp)
  · rcases Option.or_eq_some_iff.mp ha with hi | ⟨-, ht⟩
    · simpa using List.find?_some hi
    · exact h k a ht

/-- What a diff leaves behind in a table of alarms. -/
theorem get?_applyDiff (t : Table Alarm) (d : Diff) (k : Int64) :
    (applyDiff t d).get? k =
      if k ∈ d.toDelete.map (·.id) then none
      else (d.toInsert.reverse.find? (·.id = k)).or (t.get? k) :=
  get?_foldl_erase_insert Alarm.id Alarm.id d.toInsert d.toDelete t k

/-- **What a diff leaves behind under each id**: nothing if it is deleted, the last alarm inserted
under it as the store keeps it, or else what was there. -/
theorem get?_alarms_written (s : Store) (d : Diff) (k : Int64) :
    (s.written d).alarms.get? k =
      if k ∈ d.toDelete.map (·.id) then none
      else ((d.toInsert.reverse.find? (·.id = k)).map s.keep).or (s.alarms.get? k) := by
  cases s with
  | memory alarms =>
    have hkeep : (memory alarms).keep = id := rfl
    simp only [written, Store.alarms, get?_applyDiff, hkeep, Option.map_id, id_eq]
  | database db =>
    simp only [written, Store.alarms, Table.get?_map, Diff.foldl_write_statements,
      get?_foldl_erase_insert Row.id Alarm.id]
    split
    · rfl
    · rw [← List.map_reverse, List.find?_map, Option.map_or, Option.map_map]
      rfl

/-- A diff does nothing the second time. -/
@[simp] theorem written_written (s : Store) (d : Diff) :
    (s.written d).written d = s.written d := by
  cases s with
  | memory alarms =>
    exact congrArg memory
      (foldl_erase_insert_twice Alarm.id Alarm.id d.toInsert d.toDelete alarms)
  | database db =>
    simp only [written, Diff.foldl_write_statements]
    exact congrArg (fun rows => database { db with rows })
      (foldl_erase_insert_twice Row.id Alarm.id (d.toInsert.map Alarm.toRow) d.toDelete db.rows)

/-- A diff does not close a store. -/
@[simp] theorem isOpen_written (s : Store) (d : Diff) : (s.written d).IsOpen ↔ s.IsOpen := by
  cases s <;> rfl

/-- A diff keeps the kind of store that there is. -/
@[simp] theorem keep_written (s : Store) (d : Diff) : (s.written d).keep = s.keep := by
  cases s <;> rfl

/-- A diff keeps every alarm under its own id. -/
theorem Keyed.written {s : Store} (h : s.Keyed) (d : Diff) : (s.written d).Keyed := by
  cases s with
  | memory alarms => exact keyed_foldl_erase_insert Alarm.id _ _ h
  | database db =>
    simp only [Keyed, Store.written, Diff.foldl_write_statements]
    exact keyed_foldl_erase_insert Alarm.id _ _ h

/-- Writing an alarm keeps every alarm under its own id. -/
theorem Keyed.insert {s s' : Store} (h : s.Keyed) {a : Alarm} (hs : s.insert a = .ok s') :
    s'.Keyed := by
  cases s with
  | memory alarms =>
    obtain rfl := Except.ok.inj hs
    exact Table.Keyed.insert h a
  | database db =>
    obtain rfl := eq_of_commit hs
    exact Table.Keyed.insert h a.toRow

/-- Deleting an alarm keeps every alarm under its own id. -/
theorem Keyed.delete {s s' : Store} (h : s.Keyed) {a : Alarm} (hs : s.delete a = .ok s') :
    s'.Keyed := by
  cases s with
  | memory alarms =>
    obtain rfl := Except.ok.inj hs
    exact Table.Keyed.erase h a.id
  | database db =>
    obtain rfl := eq_of_commit hs
    exact Table.Keyed.erase h a.id

/-! ### Taking an alarm out -/

/-- The store without the alarm of an id. -/
def without (id : Int64) : Store → Store
  | .memory alarms => .memory (alarms.erase id)
  | .database db => .database { db with rows := db.rows.erase id }

/-- Taking an alarm out is deleting its key. -/
@[simp] theorem alarms_without (s : Store) (id : Int64) :
    (s.without id).alarms = s.alarms.erase id := by
  cases s with
  | memory alarms => rfl
  | database db =>
    refine Table.ext_get? fun k => ?_
    simp only [without, Store.alarms, Table.get?_map, Table.get?_erase]
    split <;> rfl

/-- Taking an alarm out does not close a store. -/
@[simp] theorem isOpen_without (s : Store) (id : Int64) : (s.without id).IsOpen ↔ s.IsOpen := by
  cases s <;> rfl

/-- The other alarms are loaded as before. -/
theorem load_without_of_ne (s : Store) {id k : Int64} (h : k ≠ id) :
    (s.without id).load k = s.load k := by
  cases s with
  | memory alarms => simp [without, load, Ne.symm h]
  | database db =>
    cases ht : db.outage? <;> simp [without, load, Database.rows?, ht, Except.map, Ne.symm h]

/-- The alarm that was taken out is not loaded. -/
theorem load_without_self_ne (s : Store) (id : Int64) (a : Alarm) :
    (s.without id).load id ≠ .ok (some a) := by
  rw [Ne, load_eq_ok_iff, alarms_without, Table.get?_erase, if_pos rfl]
  simp

end Store

end Household
