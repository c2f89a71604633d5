/-!
# Texts between Separators

A text is split at every separator; what lies between two of them can be empty.

## Main results

* `splitAt_ne_nil`: a text has at least one part.
* `splitAt_of_forall`: a text without separators is its only part.
* `splitAt_append_cons`: what stands before a separator is a part of its own.
-/

namespace Household.Text

/-- The parts of a text between its separators. -/
def splitAt (isSeparator : Char → Bool) : List Char → List (List Char)
  | [] => [[]]
  | c :: cs =>
    if isSeparator c then [] :: splitAt isSeparator cs
    else
      match splitAt isSeparator cs with
      | s :: ss => (c :: s) :: ss
      | [] => [[c]]

/-- A text has at least one part. -/
theorem splitAt_ne_nil (isSeparator : Char → Bool) (cs : List Char) :
    splitAt isSeparator cs ≠ [] := by
  cases cs with
  | nil => simp [splitAt]
  | cons c cs =>
    rw [splitAt]
    split
    · simp
    · split <;> simp

/-- A text without separators is its only part. -/
theorem splitAt_of_forall {isSeparator : Char → Bool} {cs : List Char}
    (h : ∀ c ∈ cs, isSeparator c = false) : splitAt isSeparator cs = [cs] := by
  induction cs with
  | nil => rfl
  | cons c cs ih =>
    have hc := h c List.mem_cons_self
    rw [splitAt, hc, ih fun d m => h d (List.mem_cons_of_mem _ m)]
    rfl

/-- What stands before the first separator is the first part. -/
theorem splitAt_append_cons {isSeparator : Char → Bool} {cs : List Char}
    (h : ∀ c ∈ cs, isSeparator c = false) {d : Char} (hd : isSeparator d = true)
    (rest : List Char) :
    splitAt isSeparator (cs ++ d :: rest) = cs :: splitAt isSeparator rest := by
  induction cs with
  | nil => rw [List.nil_append, splitAt, if_pos hd]
  | cons c cs ih =>
    have hc := h c List.mem_cons_self
    rw [List.cons_append, splitAt, hc, ih fun d m => h d (List.mem_cons_of_mem _ m)]
    rfl

end Household.Text
