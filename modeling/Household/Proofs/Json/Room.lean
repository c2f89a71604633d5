import Household.Json.Record
import Household.Proofs.Instant.Order
import Household.Proofs.Instant.Reading

/-!
# The Room That Values Take

Words, instants and texts take no more room in their written form than can be said beforehand, so
that values with a fixed number of them fit into bodies of a limited size.

## Main results

* `length_written_text_le`, `length_written_word_le`, `length_written_instant_le`: characters.
* `length_written_object_cons`: the characters of an object, member by member.
* `utf8ByteSize_ofList_le`: the octets of characters.
-/

namespace Household

open Text Calendar

/-- A character takes up to four octets. -/
theorem utf8ByteSize_ofList_le (cs : List Char) :
    (String.ofList cs).utf8ByteSize ≤ 4 * cs.length := by
  induction cs with
  | nil => exact Nat.le_refl 0
  | cons c cs ih =>
    have hc := c.utf8Size_le_four
    rw [String.ofList_cons, String.utf8ByteSize_append, String.utf8ByteSize_singleton,
      List.length_cons]
    omega

namespace Instant

/-- A year of up to six digits takes a sign more. -/
theorem length_yearText_le {y : Int} (h : y.natAbs < 1000000) : (yearText y).length ≤ 7 := by
  have hdigits : (digits y.natAbs).length ≤ 6 := length_digits_le (by decide) h
  have hpadded : (padded 4 y.natAbs).length ≤ 6 := by
    rw [padded, List.length_append, List.length_replicate]
    omega
  rw [yearText]
  split
  · omega
  · rw [List.length_cons]
    omega

/-- A fraction has at most nine digits. -/
theorem length_fractionText_le {nano : Nat} (h : nano < 1000000000) :
    (fractionText nano).length ≤ 10 := by
  have hthree : (padded 3 (nano / 1000000)).length = 3 := length_padded_of_lt (by decide) (by omega)
  have hsix : (padded 6 (nano / 1000)).length = 6 := length_padded_of_lt (by decide) (by omega)
  have hnine : (padded 9 nano).length = 9 := length_padded_of_lt (by decide) (by omega)
  rw [fractionText]
  split
  · exact Nat.zero_le 10
  split
  · rw [List.length_cons, hthree]
    decide
  split
  · rw [List.length_cons, hsix]
    decide
  · rw [List.length_cons, hnine]

/-- An instant is written in up to thirty-three characters. -/
theorem length_text_le (t : Instant) : t.text.length ≤ 33 := by
  have hreal := Date.isReal_ofDayNumber (t.second / 86400)
  have hday := dayNumber_ofDayNumber (t.second / 86400)
  obtain ⟨hmonth, hdays⟩ := hreal.lt_hundred
  have hnano := t.nano_lt
  have htwo : ∀ {n : Nat}, n < 100 → (padded 2 n).length = 2 := fun h =>
    length_padded_of_lt (by decide) h
  have hyear : (yearText (Date.ofDayNumber (t.second / 86400)).year).length ≤ 7 := by
    refine length_yearText_le ?_
    have hfirst := t.first_le
    have hlast := t.le_last
    rw [Instant.firstSecond_eq] at hfirst
    rw [Instant.lastSecond_eq] at hlast
    simp only [Date.ofDayNumber, splitYears, epochDay]
    omega
  have hfraction : (fractionText (t.nano % 1000000000)).length ≤ 10 :=
    length_fractionText_le (by omega)
  have hclock : t.secondOfDay.toNat < 86400 := by
    simp only [secondOfDay]
    omega
  rw [text_eq]
  simp only [List.length_append, List.length_cons, List.length_nil]
  rw [htwo hmonth, htwo hdays, htwo (by omega), htwo (by omega), htwo (by omega)]
  omega

end Instant

namespace Json

/-- In quotes, a character takes up to six. -/
theorem length_quotedChar_le (c : Char) : (quotedChar c).length ≤ 6 := by
  rw [quotedChar.eq_def]
  split
  case h_8 =>
    split
    · exact Nat.le_refl 6
    · exact Nat.le_of_ble_eq_true rfl
  all_goals decide

/-- A text is written between quotes. -/
theorem length_written_text_le (s : String) :
    (text s).written.length ≤ 6 * s.toList.length + 2 := by
  have hquoted : ∀ cs : List Char, (cs.flatMap quotedChar).length ≤ 6 * cs.length := by
    intro cs
    induction cs with
    | nil => exact Nat.le_refl 0
    | cons c cs ih =>
      have hc := length_quotedChar_le c
      rw [List.flatMap_cons, List.length_append, List.length_cons]
      omega
  have hs := hquoted s.toList
  simp only [written, tokens, List.flatMap_singleton, Token.written, quoted, List.length_append,
    List.length_cons, List.length_nil]
  omega

/-- A word is written with up to nineteen digits. -/
theorem length_written_word_le (n : Int64) : (word n).written.length ≤ 20 := by
  have hlow := n.minValue_le_toInt
  have hhigh := n.toInt_le
  rw [Int64.toInt_minValue] at hlow
  rw [Int64.toInt_maxValue] at hhigh
  have hdigits : (digits n.toInt.natAbs).length ≤ 19 := length_digits_le (by decide) (by omega)
  simp only [word, int, written, tokens, List.flatMap_singleton, Token.written, Numeral.text,
    Numeral.ofInt, if_true, List.append_nil, List.length_append]
  split
  · rw [List.length_singleton]
    omega
  · rw [List.length_nil]
    omega

/-- An instant is written as a text. -/
theorem length_written_instant_le (t : Instant) : (instant t).written.length ≤ 200 := by
  have htext := t.length_text_le
  have hle := length_written_text_le (String.ofList t.text)
  rw [String.toList_ofList] at hle
  exact hle.trans (by omega)

/-- An object of one member has its braces and a colon. -/
theorem length_written_object_singleton (s : String) (v : Json) :
    (object [(s, v)]).written.length = (text s).written.length + v.written.length + 3 := by
  simp only [written, tokens, memberTokens, List.flatMap_cons, List.flatMap_append,
    List.flatMap_nil, Token.written, List.length_append, List.length_cons, List.length_nil]
  omega

/-- A member more has a colon and a comma. -/
theorem length_written_object_cons (s : String) (v : Json) (m : String × Json)
    (ms : List (String × Json)) :
    (object ((s, v) :: m :: ms)).written.length =
      (text s).written.length + v.written.length + 2 + (object (m :: ms)).written.length := by
  simp only [written, tokens, memberTokens, List.flatMap_cons, List.flatMap_append,
    List.flatMap_nil, Token.written, List.length_append, List.length_cons, List.length_nil]
  omega

end Json

end Household
