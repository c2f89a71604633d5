import Household.Text.Blank
import Household.Text.Numeral
import Mathlib.Algebra.Group.Nat.Defs

/-!
# Written Numbers Are Read Back

A number is written in digits, with zeros in front of them where a width is asked for. What is read
of them is the number, and reading ends where the digits end. The same holds of numbers as JSON has
them, if they are made of digits with no zero in front.

## Main results

* `value_padded`, `length_padded_of_lt`: a padded number reads as the number, and has its width.
* `spanDigits_append`: digits are read up to what comes after them.
* `Numeral.read?_text`: a proper numeral is read back.
-/

namespace Household.Text

/-! ### Digits -/

/-- All characters are digits. -/
def AllDigits (ds : List Char) : Prop :=
  ∀ c ∈ ds, c.isDigit = true

/-- The digit of a number is a digit. -/
theorem isDigit_digitChar {n : Nat} (h : n < 10) : (digitChar n).isDigit = true := by
  match n, h with
  | 0, _ | 1, _ | 2, _ | 3, _ | 4, _ | 5, _ | 6, _ | 7, _ | 8, _ | 9, _ => rfl

/-- A number is written in digits. -/
theorem allDigits_digits (n : Nat) : AllDigits (digits n) := by
  fun_induction digits n with
  | case1 n h => exact List.forall_mem_singleton.mpr (isDigit_digitChar h)
  | case2 n h ih =>
    have hlast := isDigit_digitChar (Nat.mod_lt n (show 10 > 0 by decide))
    exact List.forall_mem_append.mpr ⟨ih, List.forall_mem_singleton.mpr hlast⟩

/-- A number has at least one digit. -/
theorem digits_ne_nil (n : Nat) : digits n ≠ [] := by
  fun_induction digits n <;> simp

/-- Only zero starts with a zero. -/
theorem head?_digits_ne {n : Nat} (h : n ≠ 0) : (digits n).head? ≠ some '0' := by
  fun_induction digits n with
  | case1 n hlt =>
    intro hzero
    have hvalue := digitValue_digitChar hlt
    rw [Option.some.inj hzero] at hvalue
    exact h hvalue.symm
  | case2 n hle ih =>
    have hhead := ih (by omega)
    obtain ⟨c, cs, hcons⟩ := List.exists_cons_of_ne_nil (digits_ne_nil (n / 10))
    rw [hcons] at hhead ⊢
    exact hhead

/-- A number has no more digits than the first power of ten beyond it. -/
theorem length_digits_le {n width : Nat} (hwidth : width ≠ 0) (h : n < 10 ^ width) :
    (digits n).length ≤ width := by
  fun_induction digits n generalizing width with
  | case1 n hlt => exact Nat.one_le_iff_ne_zero.mpr hwidth
  | case2 n hle ih =>
    obtain ⟨k, rfl⟩ := Nat.exists_eq_succ_of_ne_zero hwidth
    have hk : k ≠ 0 := by
      rintro rfl
      exact hle h
    rw [Nat.pow_succ] at h
    have hdiv := ih hk (Nat.div_lt_of_lt_mul (by omega))
    rw [List.length_append, List.length_singleton]
    omega

/-! ### Padding -/

/-- A padded number is written in digits. -/
theorem allDigits_padded (width n : Nat) : AllDigits (padded width n) := by
  refine List.forall_mem_append.mpr ⟨fun c hc => ?_, allDigits_digits n⟩
  rw [List.eq_of_mem_replicate hc]
  rfl

/-- Zeros in front do not change what a number reads as. -/
theorem value_replicate_append (k : Nat) (ds : List Char) :
    value (List.replicate k '0' ++ ds) = value ds := by
  induction k with
  | zero => rfl
  | succ k ih => exact ih

/-- A padded number reads as the number. -/
theorem value_padded (width n : Nat) : value (padded width n) = n := by
  rw [padded, value_replicate_append, value_digits]

/-- A number that fits the width is padded to just this width. -/
theorem length_padded_of_lt {width n : Nat} (hwidth : width ≠ 0) (h : n < 10 ^ width) :
    (padded width n).length = width := by
  have hle := length_digits_le hwidth h
  rw [padded, List.length_append, List.length_replicate]
  omega

/-! ### Reading digits -/

/-- Digits are read up to what comes after them. -/
theorem spanDigits_append {ds rest : List Char} (hds : AllDigits ds)
    (hrest : ∀ c ∈ rest.head?, c.isDigit = false) : spanDigits (ds ++ rest) = (ds, rest) := by
  have hstop : rest.takeWhile Char.isDigit = [] ∧ rest.dropWhile Char.isDigit = rest := by
    cases rest with
    | nil => exact ⟨rfl, rfl⟩
    | cons c cs =>
      have hc : ¬ c.isDigit = true := Bool.eq_false_iff.mp (hrest c rfl)
      exact ⟨List.takeWhile_cons_of_neg hc, List.dropWhile_cons_of_neg hc⟩
  rw [spanDigits, List.takeWhile_append_of_pos hds, List.dropWhile_append_of_pos hds, hstop.1,
    hstop.2, List.append_nil]

/-- The digits are ten characters in a row. -/
theorem isDigit_iff {c : Char} : c.isDigit = true ↔ 48 ≤ c.toNat ∧ c.toNat ≤ 57 := by
  simp only [Char.isDigit, Bool.and_eq_true, decide_eq_true_eq, ge_iff_le, UInt32.le_iff_toNat_le]
  rfl

/-- A digit is no white space. -/
theorem isBlank_of_isDigit {c : Char} (h : c.isDigit = true) : isBlank c = false := by
  have htable : ∀ r ∈ blankRanges, r.2 < 48 ∨ 57 < r.1 := by decide
  rw [isDigit_iff] at h
  refine List.any_eq_false.mpr fun r hr => ?_
  have hr' := htable r hr
  simp only [Bool.and_eq_true, decide_eq_true_eq]
  omega

/-- No white space is trimmed where there is none. -/
theorem trimStart_cons {c : Char} (h : isBlank c = false) (cs : List Char) :
    trimStart (c :: cs) = c :: cs :=
  List.dropWhile_cons_of_neg (Bool.eq_false_iff.mp h)

namespace Numeral

/-! ### Numerals -/

/-- The numeral is made of digits, with no zero in front of others. -/
structure IsProper (n : Numeral) : Prop where
  wholeDigits : WholeDigits n.whole
  whole : AllDigits n.whole
  fraction : AllDigits n.fraction
  exponent : ∀ e ∈ n.exponent, e.digits ≠ [] ∧ AllDigits e.digits

/-- The numeral of a whole number is proper. -/
theorem isProper_ofInt (n : Int) : (ofInt n).IsProper where
  wholeDigits := by
    refine ⟨digits_ne_nil _, fun hzero => ?_⟩
    by_cases h : n.natAbs = 0
    · rw [ofInt, h, digits]
      rfl
    · exact absurd hzero (head?_digits_ne h)
  whole := allDigits_digits _
  fraction := by simp [ofInt, AllDigits]
  exponent := by simp [ofInt]

/-! ### Reading numerals -/

/-- The power of ten as it is written, if there is one. -/
def exponentText (n : Numeral) : List Char :=
  match n.exponent with
  | some e => e.text
  | none => []

/-- The fraction as it is written, if there is one. -/
def fractionText (n : Numeral) : List Char :=
  if n.fraction = [] then [] else '.' :: n.fraction

variable {n : Numeral}

/-- The digits of a power of ten are read to their end. -/
theorem readExponentDigits?_of_allDigits {ds : List Char} (hne : ds ≠ []) (hds : AllDigits ds)
    (sign : Option Bool) : readExponentDigits? sign ds = some (⟨sign, ds⟩, []) := by
  have hspan : spanDigits (ds ++ []) = (ds, []) := spanDigits_append hds (by simp)
  rw [List.append_nil] at hspan
  rw [readExponentDigits?, hspan]
  dsimp only
  rw [if_neg hne]

/-- Without a sign a power of ten starts with a digit. -/
theorem readExponent?_of_allDigits {ds : List Char} (hne : ds ≠ []) (hds : AllDigits ds) :
    readExponent? ds = some (⟨none, ds⟩, []) := by
  obtain ⟨c, cs, rfl⟩ := List.exists_cons_of_ne_nil hne
  have hc : c.isDigit = true := hds c List.mem_cons_self
  rw [readExponent?]
  · exact readExponentDigits?_of_allDigits hne hds none
  · rintro _ heq
    obtain rfl := (List.cons.inj heq).1
    cases hc
  · rintro _ heq
    obtain rfl := (List.cons.inj heq).1
    cases hc

/-- A power of ten is read to its end. -/
theorem readOptionalExponent?_exponentText (h : n.IsProper) :
    readOptionalExponent? n.exponentText = some (n.exponent, []) := by
  rw [exponentText]
  cases hexponent : n.exponent with
  | none => rfl
  | some e =>
    obtain ⟨negative, ds⟩ := e
    obtain ⟨hne, hds⟩ := h.exponent _ hexponent
    have hread : readExponent? (Exponent.text ⟨negative, ds⟩).tail = some (⟨negative, ds⟩, []) := by
      cases negative with
      | none => exact readExponent?_of_allDigits hne hds
      | some sign => cases sign <;> exact readExponentDigits?_of_allDigits hne hds _
    change Option.map _ (readExponent? (Exponent.text ⟨negative, ds⟩).tail) = _
    rw [hread]
    rfl

/-- A power of ten starts with its letter. -/
theorem eq_of_mem_head?_exponentText {c : Char} (h : c ∈ n.exponentText.head?) : c = 'e' := by
  rw [exponentText] at h
  cases hexponent : n.exponent with
  | none =>
    rw [hexponent] at h
    cases h
  | some e =>
    rw [hexponent] at h
    exact (Option.some.inj h).symm

/-- A fraction is read up to the power of ten. -/
theorem readFraction?_fractionText (h : n.IsProper) :
    readFraction? (n.fractionText ++ n.exponentText) = some (n.fraction, n.exponentText) := by
  rw [fractionText]
  by_cases hnil : n.fraction = []
  · rw [if_pos hnil, List.nil_append, readFraction?, hnil]
    rintro cs heq
    have hc : '.' ∈ n.exponentText.head? := by rw [heq]; rfl
    cases eq_of_mem_head?_exponentText hc
  · have hspan : spanDigits (n.fraction ++ n.exponentText) = (n.fraction, n.exponentText) :=
      spanDigits_append h.fraction fun c hc => by
        rw [eq_of_mem_head?_exponentText hc]
        rfl
    rw [if_neg hnil, List.cons_append, readFraction?, hspan]
    dsimp only
    rw [if_neg hnil]

/-- What comes after the digits before the point is no digit. -/
theorem isDigit_of_mem_head? {c : Char} (h : c ∈ (n.fractionText ++ n.exponentText).head?) :
    c.isDigit = false := by
  rw [fractionText] at h
  split at h
  · rw [eq_of_mem_head?_exponentText h]
    rfl
  · obtain rfl := Option.some.inj h
    rfl

/-- A numeral is read after its sign. -/
theorem readUnsigned?_text (h : n.IsProper) :
    readUnsigned? n.negative (n.whole ++ (n.fractionText ++ n.exponentText)) = some (n, []) := by
  rw [readUnsigned?, spanDigits_append h.whole fun c => isDigit_of_mem_head?]
  dsimp only
  rw [if_pos h.wholeDigits, readFraction?_fractionText h, Option.bind_eq_bind, Option.bind_some]
  dsimp only
  rw [readOptionalExponent?_exponentText h]
  rfl

/-- A numeral is written as a sign and what comes after it. -/
theorem text_eq (n : Numeral) : n.text =
    (if n.negative then ['-'] else []) ++ (n.whole ++ (n.fractionText ++ n.exponentText)) :=
  calc n.text
    _ = (if n.negative then ['-'] else []) ++ n.whole ++ n.fractionText ++ n.exponentText := rfl
    _ = _ := by rw [List.append_assoc, List.append_assoc]

/-- A proper numeral starts with a digit after its sign. -/
theorem IsProper.exists_whole_eq_cons (h : n.IsProper) :
    ∃ c cs, n.whole = c :: cs ∧ c.isDigit = true := by
  obtain ⟨c, cs, hcons⟩ := List.exists_cons_of_ne_nil h.wholeDigits.1
  exact ⟨c, cs, hcons, h.whole c (hcons ▸ List.mem_cons_self)⟩

/-- **A proper numeral is read back.** -/
theorem read?_text (h : n.IsProper) : read? n.text = some (n, []) := by
  have hread := readUnsigned?_text h
  rw [text_eq]
  cases hsign : n.negative with
  | true =>
    rw [hsign] at hread
    exact hread
  | false =>
    rw [hsign] at hread
    obtain ⟨c, cs, hcons, hc⟩ := h.exists_whole_eq_cons
    rw [if_neg Bool.false_ne_true, List.nil_append, read?]
    · exact hread
    · rintro _ heq
      rw [hcons] at heq
      obtain rfl := (List.cons.inj heq).1
      cases hc

end Numeral

end Household.Text
