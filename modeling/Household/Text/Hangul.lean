/-!
# Syllables of Hangul

A syllable of Hangul is one character. It is made of a leading consonant and a vowel, or of such a
syllable and a trailing consonant. The syllables stand in the order of their parts, so that their
code points can be computed.

## Main results

* `whole?_of_pair?`: the two parts of a syllable make up the syllable.
-/

namespace Household.Text.Hangul

/-- The code point of the first leading consonant. -/
def firstLead : Nat := 0x1100

/-- The code point of the first vowel. -/
def firstVowel : Nat := 0x1161

/-- The code point in front of the first trailing consonant. -/
def noTail : Nat := 0x11A7

/-- The code point of the first syllable. -/
def firstSyllable : Nat := 0xAC00

/-- How many leading consonants there are. -/
def leads : Nat := 19

/-- How many vowels there are. -/
def vowels : Nat := 21

/-- How many ways there are to end a syllable, one of them without a trailing consonant. -/
def tails : Nat := 28

/-- The code point of a syllable. -/
def isSyllable (n : Nat) : Bool :=
  firstSyllable ≤ n && n < firstSyllable + leads * vowels * tails

/-- The two parts of a syllable: a consonant and a vowel, or a syllable and a consonant. -/
def pair? (n : Nat) : Option (Nat × Nat) :=
  if isSyllable n then
    let i := n - firstSyllable
    if i % tails = 0 then
      some (firstLead + i / tails / vowels, firstVowel + i / tails % vowels)
    else some (n - i % tails, noTail + i % tails)
  else none

/-- The syllable of two parts. -/
def whole? (a b : Nat) : Option Nat :=
  if firstLead ≤ a ∧ a < firstLead + leads ∧ firstVowel ≤ b ∧ b < firstVowel + vowels then
    some (firstSyllable + ((a - firstLead) * vowels + (b - firstVowel)) * tails)
  else if isSyllable a ∧ (a - firstSyllable) % tails = 0 ∧ noTail < b ∧ b < noTail + tails then
    some (a + (b - noTail))
  else none

/-- The two parts of a syllable make up the syllable. -/
theorem whole?_of_pair? {n a b : Nat} (h : pair? n = some (a, b)) : whole? a b = some n := by
  unfold pair? at h
  unfold whole?
  split at h
  · next hs =>
    have hr : firstSyllable ≤ n ∧ n < firstSyllable + leads * vowels * tails := by
      simpa [isSyllable] using hs
    unfold firstLead firstVowel noTail firstSyllable leads vowels tails at *
    dsimp only at h
    split at h
    · next hz =>
      obtain ⟨rfl, rfl⟩ := Prod.mk.inj (Option.some.inj h)
      rw [if_pos (by omega)]
      exact congrArg some (by omega)
    · next hz =>
      obtain ⟨rfl, rfl⟩ := Prod.mk.inj (Option.some.inj h)
      have hw : isSyllable (n - (n - 0xAC00) % 28) = true := by
        unfold isSyllable firstSyllable leads vowels tails
        simp only [Bool.and_eq_true, decide_eq_true_eq]
        omega
      rw [if_neg (by omega), if_pos ⟨hw, by omega⟩]
      exact congrArg some (by omega)
  · contradiction

end Household.Text.Hangul
