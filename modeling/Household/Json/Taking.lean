import Household.Binary64.Reader
import Household.Json.Basic

/-!
# Taking in Values

Whoever skips a value follows its form only. Whoever takes it in wants everything in it: the
characters of its texts, its numbers as doubles, and lists and objects that are nested no deeper
than allowed. Where that cannot be had, a reader that can do without the value gives it up and goes
on from where it stands. That goes well if it stands at the end of the value. Anywhere else it meets
what cannot follow a value, and is lost.

## Main results

* `takeItems_eq_whole_iff`: a list is whole exactly when all its items are.
* `takeItems_append_of_whole`: only what follows the whole items of a list decides about it.
-/

namespace Household.Json

open Text

/-- What becomes of a reader that takes in a value. -/
inductive Taking
  /-- It has the value. -/
  | whole
  /-- It gives the value up at its end. -/
  | missed
  /-- It gives the value up somewhere within. -/
  | lost
deriving DecidableEq, Repr

/-- A reader that gives up a text. -/
def Flaw.taking : Flaw → Taking
  | .atEnd => .missed
  | .within => .lost

/-- The greatest power of ten that is counted, in either direction. -/
def greatestPower : Nat := 2147483647

/-- The digits of a power of ten that is not counted to its end: it passes the greatest one before
its last digit. -/
def breaksOff (e : Exponent) : Bool :=
  greatestPower < value e.digits.dropLast

/-- Takes in a number. One that is too great is given up after its last digit, unless its power of
ten is too great already before. -/
def takeNumber (n : Numeral) : Taking :=
  match Binary64.ofNumeral? n with
  | some _ => .whole
  | none =>
    match n.exponent with
    | some e => if breaksOff e then .lost else .missed
    | none => .missed

mutual
/-- Takes in a value that may be nested so many levels deep. -/
def take (levels : Nat) : Json → Taking
  | .null => .whole
  | .bool _ => .whole
  | .number n => takeNumber n
  | .text _ => .whole
  | .garbled flaw => flaw.taking
  | .array items =>
    match levels with
    | 0 => .lost
    | levels + 1 => takeItems levels items
  | .object members =>
    match levels with
    | 0 => .lost
    | levels + 1 => takeMembers levels members

/-- Takes in the items of a list. Whoever gives up at the end of an item has missed the list if the
item was the last one; otherwise a comma stands where the list should end. -/
def takeItems (levels : Nat) : List Json → Taking
  | [] => .whole
  | v :: vs =>
    match take levels v with
    | .whole => takeItems levels vs
    | .missed => if vs.isEmpty then .missed else .lost
    | .lost => .lost

/-- Takes in the members of an object, like the items of a list. -/
def takeMembers (levels : Nat) : List (String × Json) → Taking
  | [] => .whole
  | (_, v) :: ms =>
    match take levels v with
    | .whole => takeMembers levels ms
    | .missed => if ms.isEmpty then .missed else .lost
    | .lost => .lost
end

/-- A value that is wanted whole. -/
def isWhole (levels : Nat) (v : Json) : Bool :=
  take levels v = .whole

/-- A reader that takes in a value can go on after it, with the value or without. -/
def isPassable (levels : Nat) (v : Json) : Bool :=
  take levels v ≠ .lost

/-! ### Lists -/

/-- A list is whole exactly when all its items are. -/
theorem takeItems_eq_whole_iff (levels : Nat) (vs : List Json) :
    takeItems levels vs = .whole ↔ ∀ v ∈ vs, take levels v = .whole := by
  induction vs with
  | nil => simp [takeItems]
  | cons v vs ih =>
    simp only [takeItems, List.forall_mem_cons]
    cases take levels v with
    | whole => simp [ih]
    | missed => cases vs <;> simp
    | lost => simp

/-- Only what follows the whole items of a list decides about it. -/
theorem takeItems_append_of_whole (levels : Nat) {vs : List Json} (ws : List Json)
    (h : takeItems levels vs = .whole) : takeItems levels (vs ++ ws) = takeItems levels ws := by
  induction vs with
  | nil => rfl
  | cons v vs ih =>
    have hv : take levels v = .whole := (takeItems_eq_whole_iff _ _).1 h v List.mem_cons_self
    simp only [takeItems, hv] at h
    simp [takeItems, hv, ih h]

end Household.Json
