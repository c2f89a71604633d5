import Household.Remote.HostName.Variants
import Household.Text.NormalForm
import Household.Text.Unseen

/-!
# Spelling of Host Names

Different texts can name the same host. A name is brought into its spelling by putting every
character that is a variant in the shape that it stands for, by leaving out characters that are not
to be seen, and by bringing the rest into normal form. Blanks, controls, characters without meaning
and those that separate the parts of a URL cannot stand in a name.

## Main results

* `spell?_of_forall`: a name in ASCII is only put in lower case.
-/

namespace Household.Remote.HostName

open Text

/-- Characters that do not count. -/
def ignoredRanges : List (Nat × Nat) :=
  [(0xAD, 0xAD), (0x34F, 0x34F), (0x115F, 0x1160), (0x17B4, 0x17B5), (0x180B, 0x180F),
    (0x200B, 0x200B), (0x2060, 0x2064), (0x206A, 0x206F), (0x3164, 0x3164), (0xFE00, 0xFE0F),
    (0xFEFF, 0xFEFF), (0xFFA0, 0xFFA0), (0x1BCA0, 0x1BCA3), (0x1D173, 0x1D17A), (0xE0100, 0xE01EF)]

/-- Characters that can be seen but cannot stand in a name, or stand for such characters. -/
def refusedRanges : List (Nat × Nat) :=
  [(0xA8, 0xA8), (0xAF, 0xAF), (0xB4, 0xB4), (0xB8, 0xB8), (0x2D8, 0x2DD), (0x37A, 0x37A),
    (0x384, 0x385), (0x1FBD, 0x1FBD), (0x1FBF, 0x1FC1), (0x1FCD, 0x1FCF), (0x1FDD, 0x1FDF),
    (0x1FED, 0x1FEE), (0x1FFD, 0x1FFE), (0x2017, 0x2017), (0x2024, 0x2026), (0x203E, 0x203E),
    (0x2488, 0x249B), (0x2FF0, 0x2FFF), (0x309B, 0x309C), (0x31EF, 0x31EF), (0x33C2, 0x33C2),
    (0x33C7, 0x33C7), (0x33D8, 0x33D8), (0xFC5E, 0xFC63), (0xFDFA, 0xFDFB), (0xFE12, 0xFE12),
    (0xFE19, 0xFE19), (0xFE30, 0xFE30), (0xFE49, 0xFE4C), (0xFE52, 0xFE52), (0xFE70, 0xFE70),
    (0xFE72, 0xFE72), (0xFE74, 0xFE74), (0xFE76, 0xFE76), (0xFE78, 0xFE78), (0xFE7A, 0xFE7A),
    (0xFE7C, 0xFE7C), (0xFE7E, 0xFE7E), (0xFFE3, 0xFFE3), (0xFFFC, 0xFFFD), (0x1F100, 0x1F100)]

/-- The character that keeps its neighbours from being joined. -/
def nonJoiner : Char := '\u200c'

/-- The character that asks for its neighbours to be joined. -/
def joiner : Char := '\u200d'

/-- A character that cannot stand in a name. -/
def isRefused (c : Char) : Bool :=
  (isHidden c && c ≠ nonJoiner && c ≠ joiner) || inRanges refusedRanges c

/-- The spelling of a character, if it can stand in a name. -/
def spellChar? (c : Char) : Option (List Char) :=
  if isAscii c then some [c.toLower]
  else if inRanges ignoredRanges c then some []
  else if isRefused c then none
  else some ((variant? c).getD [c])

/-- Characters of ASCII of which names are made. -/
def isPlainNameChar (c : Char) : Bool :=
  ' ' < c && c < '\x7f' && !"%#/:<>?@[\\]^|".toList.contains c

/-- Characters of which spelled names are made. -/
def isNameChar (c : Char) : Bool :=
  !isAscii c || isPlainNameChar c

/-- The spelling of a name. -/
def spell? (cs : List Char) : Option (List Char) := do
  let name := normalForm (← cs.mapM spellChar?).flatten
  if name.all isNameChar then some name else none

/-- A character of ASCII is only put in lower case. -/
theorem mapM_spellChar?_of_forall {cs : List Char} (h : ∀ c ∈ cs, isAscii c = true) :
    cs.mapM spellChar? = some (cs.map fun c => [c.toLower]) := by
  induction cs with
  | nil => rfl
  | cons c cs ih =>
    rw [List.mapM_cons, ih fun d m => h d (List.mem_cons_of_mem _ m)]
    simp [spellChar?, h c List.mem_cons_self]

/-- Small letters of ASCII are in ASCII, and those of names are in names. -/
theorem isPlainNameChar_toLower {c : Char} (h : isPlainNameChar c = true) :
    isPlainNameChar c.toLower = true ∧ c.toLower.toNat < firstBeyondAscii := by
  have hall : ∀ n : Fin firstBeyondAscii, isPlainNameChar (Char.ofNat n) = true →
      isPlainNameChar (Char.ofNat n).toLower = true ∧
        (Char.ofNat n).toLower.toNat < firstBeyondAscii := by
    decide +kernel
  have hc : c.toNat < firstBeyondAscii := by
    simp only [isPlainNameChar, Bool.and_eq_true, decide_eq_true_eq] at h
    have h2 : c.toNat < '\x7f'.toNat := h.1.2
    exact Nat.lt_trans h2 (by decide)
  have := hall ⟨c.toNat, hc⟩
  rw [Char.ofNat_toNat] at this
  exact this h

/-- A name in ASCII is only put in lower case. -/
theorem spell?_of_forall {cs : List Char} (h : ∀ c ∈ cs, isPlainNameChar c = true) :
    spell? cs = some (cs.map Char.toLower) := by
  have hascii : ∀ c ∈ cs, isAscii c = true := by
    intro c m
    have hc := h c m
    simp only [isPlainNameChar, Bool.and_eq_true, decide_eq_true_eq] at hc
    have h2 : c.toNat < '\x7f'.toNat := hc.1.2
    exact decide_eq_true (Nat.lt_trans h2 (by decide))
  have hflat : (cs.map fun c => [c.toLower]).flatten = cs.map Char.toLower := by
    rw [← List.flatMap_def, List.map_eq_flatMap]
  have hnormal : normalForm (cs.map Char.toLower) = cs.map Char.toLower := by
    refine normalForm_of_forall fun c m => ?_
    obtain ⟨d, hd, rfl⟩ := List.mem_map.1 m
    exact Nat.lt_trans (isPlainNameChar_toLower (h d hd)).2 (by decide)
  have hall : (cs.map Char.toLower).all isNameChar = true := by
    rw [List.all_eq_true]
    intro c m
    obtain ⟨d, hd, rfl⟩ := List.mem_map.1 m
    simp [isNameChar, (isPlainNameChar_toLower (h d hd)).1]
  simp only [spell?, mapM_spellChar?_of_forall hascii, Option.bind_eq_bind, Option.bind_some, hflat,
    hnormal, hall, if_true]

end Household.Remote.HostName
