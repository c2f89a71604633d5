import Household.Remote.HostName.Spelling
import Household.Text.CombiningClass

/-!
# Joiners in Host Names

Two characters that cannot be seen say whether their neighbours are joined. In a name they may stand
only where they make a difference: behind a mark that suppresses a vowel, and the one that keeps its
neighbours apart also between letters that would be joined otherwise. Marks between a letter and the
next one do not matter for that. The tables are those of Unicode 17.

## Main results

* `joinersFit_of_forall`: joiners fit in a name that has none.
-/

namespace Household.Remote.HostName

open Text

/-- Letters that are joined with the one before them only, and marks between them. -/
def previousJoiningRanges : List (Nat × Nat) :=
  [(0x622, 0x625), (0x627, 0x627), (0x629, 0x629), (0x62F, 0x632), (0x648, 0x648), (0x671, 0x673),
    (0x688, 0x699), (0x6C0, 0x6C0), (0x6C3, 0x6CB), (0x6CD, 0x6CD), (0x6CF, 0x6CF), (0x6D2, 0x6D3),
    (0x6D5, 0x6D5), (0x6EE, 0x6EF), (0x710, 0x710), (0x715, 0x719), (0x71E, 0x71E), (0x728, 0x728),
    (0x72A, 0x72A), (0x72C, 0x72C), (0x72F, 0x74D), (0x759, 0x75B), (0x76B, 0x76C), (0x771, 0x771),
    (0x773, 0x774), (0x778, 0x779), (0x840, 0x840), (0x846, 0x847), (0x849, 0x849), (0x854, 0x854),
    (0x856, 0x858), (0x867, 0x867), (0x869, 0x882), (0x88E, 0x88E), (0x8AA, 0x8AC), (0x8AE, 0x8AE),
    (0x8B1, 0x8B2), (0x8B9, 0x8B9), (0x10AC5, 0x10AC5), (0x10AC7, 0x10AC7), (0x10AC9, 0x10ACA),
    (0x10ACE, 0x10AD2), (0x10ADD, 0x10ADD), (0x10AE1, 0x10AE1), (0x10AE4, 0x10AE4),
    (0x10AEF, 0x10AEF), (0x10B81, 0x10B81), (0x10B83, 0x10B85), (0x10B89, 0x10B89),
    (0x10B8C, 0x10B8C), (0x10B8E, 0x10B8F), (0x10B91, 0x10B91), (0x10BA9, 0x10BAC),
    (0x10D22, 0x10D22), (0x10EC2, 0x10EC2), (0x10F33, 0x10F33), (0x10F54, 0x10F54),
    (0x10F74, 0x10F75), (0x10FB4, 0x10FB6), (0x10FB9, 0x10FBA), (0x10FBD, 0x10FBD),
    (0x10FC2, 0x10FC3), (0x10FC9, 0x10FC9)]

/-- Letters that are joined with the one before them and the one after them, and others between them
that have been told apart before. -/
def bothJoiningRanges : List (Nat × Nat) :=
  [(0x620, 0x620), (0x626, 0x63F), (0x641, 0x64A), (0x66E, 0x66F), (0x679, 0x6D1), (0x6FA, 0x6FC),
    (0x6FF, 0x6FF), (0x712, 0x77F), (0x7CA, 0x7EA), (0x841, 0x855), (0x860, 0x860), (0x862, 0x865),
    (0x868, 0x868), (0x886, 0x886), (0x889, 0x8A9), (0x8AF, 0x8C8), (0x1807, 0x1807),
    (0x1820, 0x1878), (0x1887, 0x18AA), (0xA840, 0xA871), (0x10AC0, 0x10AC4), (0x10AD3, 0x10AD6),
    (0x10AD8, 0x10AE0), (0x10AEB, 0x10AEE), (0x10B80, 0x10B90), (0x10BAD, 0x10BAE),
    (0x10D01, 0x10D23), (0x10EC3, 0x10EC4), (0x10EC6, 0x10EC7), (0x10F30, 0x10F44),
    (0x10F51, 0x10F53), (0x10F70, 0x10F81), (0x10FB0, 0x10FB0), (0x10FB2, 0x10FB3),
    (0x10FB8, 0x10FBF), (0x10FC1, 0x10FC4), (0x10FCA, 0x10FCA), (0x1E922, 0x1E943)]

/-- Letters that are joined with the one after them only. -/
def nextJoiningRanges : List (Nat × Nat) :=
  [(0xA872, 0xA872), (0x10ACD, 0x10ACD), (0x10AD7, 0x10AD7), (0x10D00, 0x10D00), (0x10FCB, 0x10FCB)]

/-- The sign of Adlam that, like a mark, lets letters be joined across it. -/
def nasalSign : Nat := 0x1E94B

/-- A character that lets letters be joined across it. -/
def isTransparent (c : Char) : Bool :=
  isNonspacing c || c.toNat = nasalSign

/-- A letter that is joined with the one before it only. -/
def joinsPreviousOnly (c : Char) : Bool :=
  !isTransparent c && inRanges previousJoiningRanges c

/-- A letter that is joined with the one before it and the one after it. -/
def joinsBoth (c : Char) : Bool :=
  !isTransparent c && !joinsPreviousOnly c && inRanges bothJoiningRanges c

/-- A letter that is joined with the one before it. -/
def joinsPrevious (c : Char) : Bool :=
  joinsPreviousOnly c || joinsBoth c

/-- A letter that is joined with the one after it. -/
def joinsNext (c : Char) : Bool :=
  inRanges nextJoiningRanges c || joinsBoth c

/-- The first character that is not transparent satisfies a condition. -/
def reaches (p : Char → Bool) : List Char → Bool
  | [] => false
  | c :: cs => p c || (isTransparent c && reaches p cs)

/-- A joiner fits between what stands before it, last character first, and what stands after it. -/
def joinerFits (before : List Char) (c : Char) (after : List Char) : Bool :=
  match before with
  | [] => false
  | b :: _ =>
    isVirama b || (c = nonJoiner && reaches joinsNext before && reaches joinsPrevious after)

/-- All joiners fit behind what stands before them, last character first. -/
def joinersFitAfter (before : List Char) : List Char → Bool
  | [] => true
  | c :: cs =>
    (if c = joiner ∨ c = nonJoiner then joinerFits before c cs else true)
      && joinersFitAfter (c :: before) cs

/-- All joiners in a text fit. -/
def joinersFit (cs : List Char) : Bool :=
  joinersFitAfter [] cs

/-- Joiners fit where there are none. -/
theorem joinersFitAfter_of_forall {cs : List Char} (h : ∀ c ∈ cs, c ≠ joiner ∧ c ≠ nonJoiner)
    (before : List Char) : joinersFitAfter before cs = true := by
  induction cs generalizing before with
  | nil => rfl
  | cons c cs ih =>
    have hc := h c List.mem_cons_self
    simp [joinersFitAfter, hc, ih fun d m => h d (List.mem_cons_of_mem _ m)]

/-- Joiners fit in a name that has none. -/
theorem joinersFit_of_forall {cs : List Char} (h : ∀ c ∈ cs, c ≠ joiner ∧ c ≠ nonJoiner) :
    joinersFit cs = true :=
  joinersFitAfter_of_forall h []

end Household.Remote.HostName
