import Household.Proofs.Text.Numerals

/-!
# Numbers in a Text

A text is read as a whole number if it consists of digits, at least one of them, with at most one
sign in front. As a 64-bit word it is read if the number fits. No text is read as two numbers.

## Main results

* `readSigned?_eq_some_iff`: which texts are numbers.
* `readWord?_eq_some_iff`: which of them are words.
* `denotes_signed`: a number as it is written.
-/

namespace Household.Text

/-- The text is a whole number, in decimal digits and with at most one sign in front of them. -/
inductive Denotes : List Char → Int → Prop
  | plain {ds : List Char} (hne : ds ≠ []) (hds : AllDigits ds) : Denotes ds (value ds)
  | plus {ds : List Char} (hne : ds ≠ []) (hds : AllDigits ds) : Denotes ('+' :: ds) (value ds)
  | minus {ds : List Char} (hne : ds ≠ []) (hds : AllDigits ds) :
    Denotes ('-' :: ds) (-(value ds : Int))

/-- Digits are read if there are some. -/
theorem ite_digits_eq_some_iff {ds : List Char} {m n : Int} :
    (if ds ≠ [] ∧ ds.all Char.isDigit then some m else none) = some n ↔
      ds ≠ [] ∧ AllDigits ds ∧ m = n := by
  simp only [List.all_eq_true, AllDigits, Option.ite_none_right_eq_some, Option.some.injEq,
    and_assoc]

/-- **A text is read as the number that it denotes.** -/
theorem readSigned?_eq_some_iff {cs : List Char} {n : Int} :
    readSigned? cs = some n ↔ Denotes cs n := by
  constructor
  · intro h
    rw [readSigned?.eq_def] at h
    split at h
    · obtain ⟨hne, hds, rfl⟩ := ite_digits_eq_some_iff.mp h
      exact .minus hne hds
    · obtain ⟨hne, hds, rfl⟩ := ite_digits_eq_some_iff.mp h
      exact .plus hne hds
    · obtain ⟨hne, hds, rfl⟩ := ite_digits_eq_some_iff.mp h
      exact .plain hne hds
  · intro h
    cases h with
    | plain hne hds =>
      -- A digit is no sign, so that the whole text is read.
      rw [readSigned?.eq_def]
      split
      · exact absurd (hds '-' List.mem_cons_self) (by decide)
      · exact absurd (hds '+' List.mem_cons_self) (by decide)
      · exact ite_digits_eq_some_iff.mpr ⟨hne, hds, rfl⟩
    | plus hne hds => exact ite_digits_eq_some_iff.mpr ⟨hne, hds, rfl⟩
    | minus hne hds => exact ite_digits_eq_some_iff.mpr ⟨hne, hds, rfl⟩

/-- A text denotes one number at most. -/
theorem Denotes.unique {cs : List Char} {m n : Int} (hm : Denotes cs m) (hn : Denotes cs n) :
    m = n :=
  Option.some.inj ((readSigned?_eq_some_iff.mpr hm).symm.trans (readSigned?_eq_some_iff.mpr hn))

/-- A number denotes itself. -/
theorem denotes_signed (n : Int) : Denotes (signed n) n := by
  rw [signed]
  split
  · next h =>
    have hminus := Denotes.minus (digits_ne_nil n.natAbs) (allDigits_digits n.natAbs)
    rwa [value_digits, show -(n.natAbs : Int) = n by omega] at hminus
  · next h =>
    have hplain := Denotes.plain (digits_ne_nil n.natAbs) (allDigits_digits n.natAbs)
    rwa [value_digits, show (n.natAbs : Int) = n by omega] at hplain

/-- A number is made of digits and at most a sign. -/
theorem Denotes.isDigit_or_isSign {cs : List Char} {n : Int} (h : Denotes cs n) :
    ∀ c ∈ cs, c.isDigit = true ∨ c = '+' ∨ c = '-' := by
  cases h with
  | plain _ hds => exact fun c hc => .inl (hds c hc)
  | plus _ hds => exact List.forall_mem_cons.mpr ⟨.inr (.inl rfl), fun c hc => .inl (hds c hc)⟩
  | minus _ hds => exact List.forall_mem_cons.mpr ⟨.inr (.inr rfl), fun c hc => .inl (hds c hc)⟩

/-- A number is not written as nothing. -/
theorem Denotes.ne_nil {cs : List Char} {n : Int} (h : Denotes cs n) : cs ≠ [] := by
  cases h with
  | plain hne _ => exact hne
  | plus => exact List.cons_ne_nil _ _
  | minus => exact List.cons_ne_nil _ _

/-- A number is a word if it is that of a word. -/
theorem word?_eq_some_iff {n : Int} {w : Int64} : word? n = some w ↔ w.toInt = n := by
  refine ⟨toInt_of_word?, ?_⟩
  rintro rfl
  rw [word?, if_pos ⟨Int64.le_toInt w, Int64.toInt_le w⟩, Int64.ofInt_toInt]

/-- **A text is read as the word whose number it denotes.** -/
theorem readWord?_eq_some_iff {cs : List Char} {w : Int64} :
    readWord? cs = some w ↔ Denotes cs w.toInt := by
  simp only [readWord?, Option.bind_eq_some_iff, readSigned?_eq_some_iff, word?_eq_some_iff,
    exists_eq_right']

/-- A number that is not negative and that the text denotes is too great for a word if the text is
read as none. -/
theorem lt_of_readWord?_eq_none {cs : List Char} {n : Nat} (h : readWord? cs = none)
    (hn : Denotes cs n) : Int64.maxValue.toInt < n := by
  refine Int.not_le.mp fun hle => ?_
  rw [Int64.toInt_maxValue] at hle
  have hword : (Int64.ofInt n).toInt = n := Int64.toInt_ofInt_of_le (by omega) (by omega)
  rw [readWord?_eq_some_iff.mpr (hword ▸ hn)] at h
  cases h

end Household.Text
