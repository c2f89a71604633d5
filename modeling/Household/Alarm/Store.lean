import Household.Alarm.Diff
import Household.Alarm.Row

/-!
# Stores of Alarms

A store keeps at most one alarm per id and lists them by id. One kind keeps alarms in memory just as
they are, the other keeps rows in a database. Writing an id that is there replaces its alarm, and
deleting one that is not there does nothing. A diff is carried out as one commit: a database that
refuses one of its statements is left as it was.

## Main results

* `Database.run?_append`: statements run one after the other.
* `Store.apply_of_isEmpty`: an empty diff changes nothing and cannot fail.
-/

namespace Household

/-- Why a database carries out no statement. -/
inductive QueryError
  /-- It refuses this one. -/
  | refused
  /-- The table of alarms is not there. -/
  | noTable
deriving DecidableEq, Repr

/-- The text of a query error. -/
def QueryError.message : QueryError → String
  | .refused => "refused"
  | .noTable => "no such table: event_alarms"

/-- Why a store gives no answer. -/
inductive StoreError
  /-- The pool has no connection to give. -/
  | pool (cause : String)
  | query (cause : QueryError)
  /-- The file holds no database in which the table can be made. -/
  | migration (cause : String)
  /-- Someone panicked who held the lock of a store in memory. -/
  | poisoned
deriving DecidableEq, Repr

/-- The text of a store error. -/
def StoreError.message : StoreError → String
  | .pool cause => "Database pool error: " ++ cause
  | .query cause => "Database query error: " ++ cause.message
  | .migration cause => "Migration error: " ++ cause
  | .poisoned => "Alarm store lock poisoned"

/-! ### Databases -/

/-- A statement on one row. -/
inductive Statement
  /-- Writes the row in place of one with its id. -/
  | replace (row : Row)
  /-- Deletes the row with this id, if it is there. -/
  | delete (id : Int64)
deriving DecidableEq, Repr

/-- Why a database answers nothing at all. -/
inductive Outage
  /-- There is no connection to it. -/
  | noConnection (cause : String)
  /-- The table of alarms is gone. -/
  | noTable
deriving DecidableEq, Repr

/-- The answer of a database that answers nothing. -/
def Outage.error : Outage → StoreError
  | .noConnection cause => .pool cause
  | .noTable => .query .noTable

/-- A database with the table of alarms, why it answers nothing if it does not, and the ids that it
refuses to write or to delete. -/
structure Database where
  rows : Table Row
  outage? : Option Outage
  refusedWrites : List Int64
  refusedDeletes : List Int64

namespace Database

/-- A new database, which refuses nothing. -/
def empty : Database := ⟨.empty, none, [], []⟩

/-- The database after a statement. Deleting is refused only where there is a row to delete. -/
def execute? (db : Database) (s : Statement) : Except StoreError Database :=
  match db.outage?, s with
  | some outage, _ => .error outage.error
  | none, .replace row =>
    if row.id ∈ db.refusedWrites then .error (.query .refused)
    else .ok { db with rows := db.rows.insert row.id row }
  | none, .delete id =>
    if db.rows.contains id ∧ id ∈ db.refusedDeletes then .error (.query .refused)
    else .ok { db with rows := db.rows.erase id }

/-- The database after a sequence of statements, or why one of them failed. -/
def run? : Database → List Statement → Except StoreError Database
  | db, [] => .ok db
  | db, s :: ss => (db.execute? s).bind (·.run? ss)

/-- The rows by id. -/
def rows? (db : Database) : Except StoreError (Table Row) :=
  match db.outage? with
  | some outage => .error outage.error
  | none => .ok db.rows

/-- Statements run one list after the other as they run together. -/
theorem run?_append (db : Database) (ss ts : List Statement) :
    db.run? (ss ++ ts) = (db.run? ss).bind (·.run? ts) := by
  induction ss generalizing db with
  | nil => rfl
  | cons s ss ih =>
    simp only [List.cons_append, run?]
    cases db.execute? s with
    | error e => rfl
    | ok db' => exact ih db'

end Database

/-- The statements of a diff: first what is inserted, then what is deleted. -/
def Diff.statements (d : Diff) : List Statement :=
  d.toInsert.map (.replace ·.toRow) ++ d.toDelete.map (.delete ·.id)

/-! ### Stores -/

/-- A place where alarms are kept. -/
inductive Store
  /-- In memory. -/
  | memory (alarms : Table Alarm)
  /-- As rows of a database. -/
  | database (db : Database)

namespace Store

/-- Carries out statements on a database, all or none. -/
def commit (db : Database) (ss : List Statement) : Except StoreError Store :=
  (db.run? ss).map .database

/-- All alarms by id. -/
def all : Store → Except StoreError (List Alarm)
  | .memory alarms => .ok alarms.values
  | .database db => db.rows?.map fun rows => rows.values.map Row.toAlarm

/-- The alarm with an id, if there is one. -/
def load : Store → Int64 → Except StoreError (Option Alarm)
  | .memory alarms, id => .ok (alarms.get? id)
  | .database db, id => db.rows?.map fun rows => (rows.get? id).map Row.toAlarm

/-- Writes an alarm. -/
def insert : Store → Alarm → Except StoreError Store
  | .memory alarms, a => .ok (.memory (alarms.insert a.id a))
  | .database db, a => commit db [.replace a.toRow]

/-- Deletes the alarm with the id of this one. -/
def delete : Store → Alarm → Except StoreError Store
  | .memory alarms, a => .ok (.memory (alarms.erase a.id))
  | .database db, a => commit db [.delete a.id]

/-- A table of alarms after a diff. -/
def applyDiff (alarms : Table Alarm) (d : Diff) : Table Alarm :=
  d.toDelete.foldl (fun t a => t.erase a.id) (d.toInsert.foldl (fun t a => t.insert a.id a) alarms)

/-- Carries out a diff. -/
def apply : Store → Diff → Except StoreError Store
  | .memory alarms, d => .ok (.memory (applyDiff alarms d))
  | .database db, d => commit db d.statements

/-- An empty diff changes nothing and cannot fail. -/
theorem apply_of_isEmpty (s : Store) {d : Diff} (h : d.isEmpty = true) : s.apply d = .ok s := by
  obtain ⟨hi, hd⟩ := (Diff.isEmpty_iff d).1 h
  cases s <;> simp [apply, applyDiff, commit, Diff.statements, Database.run?, hi, hd, Except.map]

end Store

end Household
