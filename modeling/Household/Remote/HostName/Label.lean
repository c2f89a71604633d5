import Household.Remote.HostName.Direction
import Household.Remote.HostName.Joining
import Household.Text.Punycode

/-!
# Labels of Host Names

A host name consists of labels with points between them. On the network only ASCII is used: a label
with other characters is sent as `xn--` and its Punycode. Such a code can also be given in the first
place; then it has to be the code of a label that is spelled as it should be.

## Main results

* `isAscii_of_mem_asciiName?`: on the network a name is in ASCII.
-/

namespace Household.Remote.HostName

open Text

/-- What a label in Punycode starts with. -/
def codeMark : List Char := "xn--".toList

/-- The greatest length of a code. -/
def greatestCodeLength : Nat := 2000

/-- The greatest length of a label that is not in ASCII. -/
def greatestLabelLength : Nat := 1000

/-- The label of a code, which is spelled as it should be and not in ASCII. -/
def ofCode? (code : List Char) : Option (List Char) :=
  if code.all isAscii ∧ code.length ≤ greatestCodeLength ∧ code ≠ []
      ∧ code.getLast? ≠ some '-' then
    (Punycode.decode? code).filter fun label => spell? label = some label
  else none

/-- The label of a spelled text, which may be a code. -/
def label? (text : List Char) : Option (List Char) :=
  if codeMark.isPrefixOf text then ofCode? (text.drop codeMark.length) else some text

/-- A label that does not start with a mark, in which joiners fit, and which is not too long. -/
def isProper (label : List Char) : Bool :=
  !(label.head?.map isMark).getD false && joinersFit label
    && (label.all isAscii || label.length ≤ greatestLabelLength)

/-- A label as it is sent. -/
def asciiLabel (label : List Char) : List Char :=
  if label.all isAscii then label else codeMark ++ Punycode.encode label

/-- A name as it is sent. -/
def asciiName? (cs : List Char) : Option (List Char) := do
  let labels ← (splitAt (· = '.') (← spell? cs)).mapM label?
  if labels.all isProper ∧ areInOrder labels then
    some (['.'].intercalate (labels.map asciiLabel))
  else none

/-! ### Names in ASCII -/

/-- A label is sent in ASCII. -/
theorem isAscii_of_mem_asciiLabel {label : List Char} {c : Char} (h : c ∈ asciiLabel label) :
    isAscii c = true := by
  unfold asciiLabel at h
  split at h
  · next hall => exact List.all_eq_true.1 hall c h
  · rcases List.mem_append.1 h with h | h
    · exact List.all_eq_true.1 (show codeMark.all isAscii = true from rfl) c h
    · exact Punycode.isAscii_of_mem_encode h

/-- A character of labels with points between them is a point or in one of the labels. -/
theorem mem_intercalate {parts : List (List Char)} {c : Char} (h : c ∈ ['.'].intercalate parts) :
    c = '.' ∨ ∃ part ∈ parts, c ∈ part := by
  induction parts with
  | nil => contradiction
  | cons part parts ih =>
    cases parts with
    | nil => exact .inr ⟨part, List.mem_cons_self, by simpa [List.intercalate] using h⟩
    | cons next parts =>
      rw [List.intercalate_cons_cons] at h
      rcases List.mem_append.1 h with h | h
      · rcases List.mem_append.1 h with h | h
        · exact .inr ⟨part, List.mem_cons_self, h⟩
        · exact .inl (List.mem_singleton.1 h)
      · rcases ih h with h | ⟨p, hp, h⟩
        · exact .inl h
        · exact .inr ⟨p, List.mem_cons_of_mem _ hp, h⟩

/-- On the network a name is in ASCII. -/
theorem isAscii_of_mem_asciiName? {cs name : List Char} (h : asciiName? cs = some name) {c : Char}
    (hc : c ∈ name) : isAscii c = true := by
  obtain ⟨text, _, h⟩ := Option.bind_eq_some_iff.1 h
  obtain ⟨labels, _, h⟩ := Option.bind_eq_some_iff.1 h
  split at h
  · obtain rfl := Option.some.inj h
    rcases mem_intercalate hc with rfl | ⟨part, hpart, hc⟩
    · decide
    · obtain ⟨label, _, rfl⟩ := List.mem_map.1 hpart
      exact isAscii_of_mem_asciiLabel hc
  · contradiction

end Household.Remote.HostName
