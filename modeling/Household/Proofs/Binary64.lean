import Household.Binary64.Shortest
import Household.Proofs.Text.Numerals
import Mathlib.Data.List.DropRight

/-!
# Doubles Are Written as Numbers

Whatever a double is, its text is a number: digits before the point without a zero in front of
others, digits behind it, and a power of ten with at least one digit. A decimal that rounds to
another double than zero has a coefficient other than zero, so that there are digits to be laid out
after the trailing zeros have been taken off.

## Main results

* `isProper_numeral`: the text of a double is a number.
-/

namespace Household.Binary64

open Text

/-- A decimal that rounds to a magnitude other than zero is not zero. -/
theorem Decimal.coefficient_ne_zero {d : Decimal} {m : Nat} (hm : m ≠ 0)
    (h : d.roundsTo m = true) : d.coefficient ≠ 0 := by
  intro hzero
  have hnearest : nearest? d.ratio.1 d.ratio.2 = some m := of_decide_eq_true h
  have hratio : d.ratio.1 = 0 ∧ 0 < d.ratio.2 := by
    rw [Decimal.ratio, hzero]
    split
    · exact ⟨Nat.zero_mul _, Nat.one_pos⟩
    · exact ⟨rfl, Nat.pow_pos (by decide)⟩
  rw [hratio.1, nearest_zero _ hratio.2] at hnearest
  exact hm (Option.some.inj hnearest).symm

/-! ### Layout -/

/-- The digits of a number without its trailing zeros. -/
theorem significant_digits {n : Nat} (h : n ≠ 0) :
    let ds := ((digits n).reverse.dropWhile (· = '0')).reverse
    ds ≠ [] ∧ AllDigits ds ∧ ds.head? ≠ some '0' := by
  intro ds
  have hpart : ds <+: digits n := List.rdropWhile_prefix _ _
  have hhead := head?_digits_ne h
  have hne : ds ≠ [] := by
    intro hnil
    obtain ⟨c, cs, hcons⟩ := List.exists_cons_of_ne_nil (digits_ne_nil n)
    have hall := List.rdropWhile_eq_nil_iff.mp hnil
    have hc := of_decide_eq_true (hall c (hcons ▸ List.mem_cons_self))
    rw [hcons, List.head?_cons, hc] at hhead
    exact hhead rfl
  refine ⟨hne, fun c hc => allDigits_digits n c (hpart.subset hc), ?_⟩
  obtain ⟨c, cs, hcons⟩ := List.exists_cons_of_ne_nil hne
  obtain ⟨rest, hrest⟩ := hpart
  rw [← hrest, hcons] at hhead
  rw [hcons]
  exact hhead

variable {ds : List Char}

/-- Zeros are digits. -/
theorem allDigits_replicate (k : Nat) : AllDigits (List.replicate k '0') := by
  intro c hc
  rw [List.eq_of_mem_replicate hc]
  rfl

/-- Digits with a point in them are a number, if they do not start with a zero. -/
theorem isProper_withPoint (hne : ds ≠ []) (hds : AllDigits ds) (hhead : ds.head? ≠ some '0')
    (k : Int) : (withPoint ds k).IsProper := by
  have hzero : AllDigits ['0'] := allDigits_replicate 1
  rw [withPoint]
  split
  · exact
      { wholeDigits := ⟨List.cons_ne_nil _ _, fun _ => rfl⟩
        whole := hzero
        fraction := List.forall_mem_append.mpr ⟨allDigits_replicate _, hds⟩
        exponent := by simp }
  split
  · exact
      { wholeDigits := by
          refine ⟨by simp [hne], fun hstart => absurd ?_ hhead⟩
          rwa [List.head?_append_of_ne_nil _ hne] at hstart
        whole := List.forall_mem_append.mpr ⟨hds, allDigits_replicate _⟩
        fraction := hzero
        exponent := by simp }
  · next hpositive hlonger =>
    have htake : ds.take k.toNat ≠ [] := by
      rw [Ne, List.take_eq_nil_iff]
      rintro (hk | hnil)
      · omega
      · exact hne hnil
    exact
      { wholeDigits := by
          refine ⟨htake, fun hstart => absurd ?_ hhead⟩
          rwa [List.head?_take, if_neg (by omega)] at hstart
        whole := fun c hc => hds c (List.mem_of_mem_take hc)
        fraction := fun c hc => hds c (List.mem_of_mem_drop hc)
        exponent := by simp }

/-- Digits with a power of ten are a number. -/
theorem isProper_withExponent (hne : ds ≠ []) (hds : AllDigits ds) (e : Int) :
    (withExponent ds e).IsProper where
  wholeDigits := by
    obtain ⟨c, cs, rfl⟩ := List.exists_cons_of_ne_nil hne
    refine ⟨by simp [withExponent], fun hstart => ?_⟩
    simpa [withExponent] using hstart
  whole c hc := hds c (List.mem_of_mem_take hc)
  fraction c hc := hds c (List.mem_of_mem_drop hc)
  exponent := by
    rintro _ ⟨⟩
    exact ⟨digits_ne_nil _, allDigits_digits _⟩

/-- A decimal other than zero is laid out as a number. -/
theorem Decimal.isProper_numeral {d : Decimal} (h : d.coefficient ≠ 0) (layout : Layout) :
    (d.numeral layout).IsProper := by
  obtain ⟨hne, hds, hhead⟩ := significant_digits h
  rw [Decimal.numeral]
  split
  · exact isProper_withPoint hne hds hhead _
  · exact isProper_withExponent hne hds _

/-- **The text of a double is a number.** -/
theorem isProper_numeral (x : Binary64) : x.numeral.IsProper := by
  have hzero : (⟨false, ['0'], ['0'], none⟩ : Numeral).IsProper :=
    { wholeDigits := ⟨List.cons_ne_nil _ _, fun _ => rfl⟩
      whole := allDigits_replicate 1
      fraction := allDigits_replicate 1
      exponent := by simp }
  have hsigned {n : Numeral} (h : n.IsProper) : { n with negative := x.negative }.IsProper :=
    ⟨h.wholeDigits, h.whole, h.fraction, h.exponent⟩
  rw [numeral]
  refine hsigned ?_
  split
  · exact hzero
  · next hm =>
    split
    · next d hd =>
      have hcoefficient := Decimal.coefficient_ne_zero hm (roundsTo_of_shortest? hd)
      exact Decimal.isProper_numeral hcoefficient wireLayout
    · exact hzero

end Household.Binary64
