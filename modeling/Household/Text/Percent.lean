import Household.Json.Token

/-!
# Percent Encoding

A character of a path can be written as a percent sign and the two hexadecimal digits of its octet.
A percent sign without two digits stands for itself. A reader of characters takes octets outside of
ASCII, which stand for no character by themselves, for replacement characters, and can leave some
characters encoded, so that what they stand for is not taken for a separator; a second reader then
decodes the rest. A reader of octets takes all octets together for a text.

## Main results

* `percentDecode_of_not_mem`, `percentOctets_of_not_mem`: a text without percent signs is left as it
  is.
* `percentEncode_of_forall`: a text of plain characters is left as it is.
-/

namespace Household.Text

/-- The octet of two hexadecimal digits. -/
def escapedOctet? (a b : Char) : Option Nat := do
  return 16 * (← Json.hexValue? a) + (← Json.hexValue? b)

/-- The character of an octet. -/
def octetChar (n : Nat) : Char :=
  if n < 128 then Char.ofNat n else '\ufffd'

/-- The character of the two digits after a percent sign, unless it is to be left encoded. -/
def escapedChar? (leave : List Char) (a b : Char) : Option Char :=
  ((escapedOctet? a b).map octetChar).filter (!leave.contains ·)

/-- A text with its percent encoded characters decoded, but for some that are left as they are. -/
def percentDecode (leave : List Char) : List Char → List Char
  | '%' :: a :: b :: cs =>
    match escapedChar? leave a b with
    | some c => c :: percentDecode leave cs
    | none => '%' :: percentDecode leave (a :: b :: cs)
  | c :: cs => c :: percentDecode leave cs
  | [] => []

/-- The octets of a text, encoded or not. -/
def percentOctets : List Char → List UInt8
  | '%' :: a :: b :: cs =>
    match escapedOctet? a b with
    | some n => n.toUInt8 :: percentOctets cs
    | none => '%'.toNat.toUInt8 :: percentOctets (a :: b :: cs)
  | c :: cs => String.utf8EncodeChar c ++ percentOctets cs
  | [] => []

/-- The text that the octets of a text spell, if they spell one. -/
def percentText? (cs : List Char) : Option (List Char) :=
  (String.fromUTF8? ⟨(percentOctets cs).toArray⟩).map String.toList

/-- The upper-case hexadecimal digit of a number below sixteen. -/
def upperHexDigit (n : Nat) : Char :=
  if n < 10 then Char.ofNat ('0'.toNat + n) else Char.ofNat ('A'.toNat + (n - 10))

/-- The octets of a character, each as a percent sign and two digits. -/
def percentEncoded (c : Char) : List Char :=
  (String.utf8EncodeChar c).flatMap fun b =>
    ['%', upperHexDigit (b.toNat / 16), upperHexDigit (b.toNat % 16)]

/-- A text with the characters encoded that are not plain. -/
def percentEncode (isPlain : Char → Bool) (cs : List Char) : List Char :=
  cs.flatMap fun c => if isPlain c then [c] else percentEncoded c

/-- A text without percent signs is left as it is. -/
theorem percentDecode_of_not_mem (leave : List Char) {cs : List Char} (h : '%' ∉ cs) :
    percentDecode leave cs = cs := by
  induction cs with
  | nil => rfl
  | cons c cs ih =>
    have hc : c ≠ '%' := fun e => h (e ▸ List.mem_cons_self)
    have ht : '%' ∉ cs := fun m => h (List.mem_cons_of_mem _ m)
    rw [percentDecode, ih ht]
    rintro a b t rfl
    exact absurd rfl hc

/-- The octets of a text without percent signs are those of its characters. -/
theorem percentOctets_of_not_mem {cs : List Char} (h : '%' ∉ cs) :
    percentOctets cs = cs.flatMap String.utf8EncodeChar := by
  induction cs with
  | nil => rfl
  | cons c cs ih =>
    have hc : c ≠ '%' := fun e => h (e ▸ List.mem_cons_self)
    have ht : '%' ∉ cs := fun m => h (List.mem_cons_of_mem _ m)
    rw [percentOctets, ih ht]
    · rfl
    · rintro a b t rfl
      exact absurd rfl hc

/-- A text of plain characters is left as it is. -/
theorem percentEncode_of_forall {isPlain : Char → Bool} {cs : List Char}
    (h : ∀ c ∈ cs, isPlain c = true) : percentEncode isPlain cs = cs := by
  induction cs with
  | nil => rfl
  | cons c cs ih =>
    have hc := h c List.mem_cons_self
    have ht := ih fun d m => h d (List.mem_cons_of_mem _ m)
    simp only [percentEncode, List.flatMap_cons, hc, if_true] at ht ⊢
    rw [ht]
    rfl

end Household.Text
