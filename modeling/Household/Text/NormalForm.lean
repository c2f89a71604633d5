import Household.Text.CombiningClass
import Household.Text.Composition

/-!
# Normal Form of Text

Texts that differ only in how their letters are put together look the same. Of all of them the
normal form has as few characters as the joining of pairs allows: characters are taken apart, marks
of different classes are put in the order of their classes, and marks are joined with the letters
before them, unless a mark of the same class stands between.

## Main results

* `perm_reorder`: putting marks in order neither loses nor adds any.
* `normalForm_of_forall`: a text of the first characters is its own normal form.
-/

namespace Household.Text

/-! ### Taking characters apart -/

/-- How often parts of a character can be taken apart again. -/
def greatestPartDepth : Nat := 3

/-- A character taken apart so many times. -/
def takeApart : Nat → Char → List Char
  | 0, c => [c]
  | depth + 1, c =>
    match parts? c with
    | some cs => cs.flatMap (takeApart depth)
    | none => [c]

/-! ### Order of marks -/

/-- Puts a character in front of marks, behind those of a lower class if it has a class. -/
def insertMark (c : Char) : List Char → List Char
  | [] => [c]
  | d :: ds =>
    if combiningClass d ≠ 0 ∧ combiningClass d < combiningClass c then d :: insertMark c ds
    else c :: d :: ds

/-- A text with its marks in the order of their classes; marks of the same class stay in theirs. -/
def reorder : List Char → List Char
  | [] => []
  | c :: cs => insertMark c (reorder cs)

/-! ### Joining characters -/

/-- Joins a letter with what follows. Marks that cannot be joined with it are kept, last one first;
they stand between the letter and a mark unless their classes are lower. -/
def joinAfter (letter : Char) (kept : List Char) : List Char → List Char
  | [] => letter :: kept.reverse
  | c :: cs =>
    let isFree := match kept with
      | [] => true
      | d :: _ => combiningClass d < combiningClass c
    match if isFree then join? letter c else none with
    | some whole => joinAfter whole kept cs
    | none =>
      if combiningClass c = 0 then letter :: kept.reverse ++ joinAfter c [] cs
      else joinAfter letter (c :: kept) cs

/-- Joins the characters of a text; marks in front of the first letter are left as they are. -/
def joinAll : List Char → List Char
  | [] => []
  | c :: cs => if combiningClass c = 0 then joinAfter c [] cs else c :: joinAll cs

/-- The normal form of a text. -/
def normalForm (cs : List Char) : List Char :=
  joinAll (reorder (cs.flatMap (takeApart greatestPartDepth)))

/-! ### Marks are neither lost nor added -/

/-- Putting a mark in its place keeps all characters. -/
theorem perm_insertMark (c : Char) (cs : List Char) : (insertMark c cs).Perm (c :: cs) := by
  induction cs with
  | nil => exact .refl _
  | cons d ds ih =>
    rw [insertMark]
    split
    · exact (ih.cons d).trans (.swap c d ds)
    · exact .refl _

/-- Putting marks in order neither loses nor adds any. -/
theorem perm_reorder (cs : List Char) : (reorder cs).Perm cs := by
  induction cs with
  | nil => exact .refl _
  | cons c cs ih => exact (perm_insertMark c (reorder cs)).trans (ih.cons c)

/-! ### Texts of the first characters -/

/-- The first characters cannot be taken apart. -/
theorem takeApart_of_lt (depth : Nat) {c : Char} (h : c.toNat < firstMade) :
    takeApart depth c = [c] := by
  cases depth with
  | zero => rfl
  | succ depth => rw [takeApart, parts?_of_lt h]

/-- A text of the first characters is in order. -/
theorem reorder_of_forall {cs : List Char} (h : ∀ c ∈ cs, c.toNat < firstMade) :
    reorder cs = cs := by
  induction cs with
  | nil => rfl
  | cons c cs ih =>
    rw [reorder, ih fun d m => h d (List.mem_cons_of_mem _ m)]
    cases cs with
    | nil => rfl
    | cons d ds =>
      have hd : d.toNat < firstCombining :=
        Nat.lt_trans (h d (List.mem_cons_of_mem _ List.mem_cons_self)) (by decide)
      simp [insertMark, combiningClass_of_lt hd]

/-- The first characters are not joined with a letter. -/
theorem joinAfter_of_forall {cs : List Char} (h : ∀ c ∈ cs, c.toNat < firstMade) (letter : Char) :
    joinAfter letter [] cs = letter :: cs := by
  induction cs generalizing letter with
  | nil => rfl
  | cons c cs ih =>
    have hc := h c List.mem_cons_self
    have hj : join? letter c = none := join?_of_lt letter (Nat.lt_trans hc (by decide))
    have hz : combiningClass c = 0 := combiningClass_of_lt (Nat.lt_trans hc (by decide))
    simp [joinAfter, hj, hz, ih fun d m => h d (List.mem_cons_of_mem _ m)]

/-- A text of the first characters is its own normal form. -/
theorem normalForm_of_forall {cs : List Char} (h : ∀ c ∈ cs, c.toNat < firstMade) :
    normalForm cs = cs := by
  have hapart : cs.flatMap (takeApart greatestPartDepth) = cs := by
    induction cs with
    | nil => rfl
    | cons c cs ih =>
      rw [List.flatMap_cons, takeApart_of_lt _ (h c List.mem_cons_self),
        ih fun d m => h d (List.mem_cons_of_mem _ m)]
      rfl
  rw [normalForm, hapart, reorder_of_forall h]
  cases cs with
  | nil => rfl
  | cons c cs =>
    have hc : c.toNat < firstCombining := Nat.lt_trans (h c List.mem_cons_self) (by decide)
    rw [joinAll, combiningClass_of_lt hc, if_pos rfl]
    exact joinAfter_of_forall (fun d m => h d (List.mem_cons_of_mem _ m)) c

end Household.Text
