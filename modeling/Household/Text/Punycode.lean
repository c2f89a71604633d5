import Household.Text.CodePoints

/-!
# Punycode

A text can be written with ASCII characters alone: first those that it has anyway, then, behind a
hyphen, where the others have to be put in. They are put in one after another in the order of their
code points. All that could be put in at any place, from the place of the last one on, is counted
through, place by place and then code point by code point; what is written is how many of these
possibilities are passed over. The numbers are written to the base 36, lowest digit first, and a
digit below a threshold is the last one of its number. The thresholds adapt to how large the numbers
have been.

## Main results

* `digitValue?_digitChar`: digits are read as they are written.
* `fill?_numberDigits`: numbers are read as they are written, whatever follows them.
* `isAscii_of_mem_encode`: what is written is ASCII.
-/

namespace Household.Text.Punycode

/-! ### Digits -/

/-- The base of the digits. -/
def base : Nat := 36

/-- The character of a digit: a letter, or from 26 on a decimal digit. -/
def digitChar (d : Nat) : Char :=
  if d < 26 then Char.ofNat ('a'.toNat + d) else Char.ofNat ('0'.toNat + (d - 26))

/-- The digit of a character, capital letters included. -/
def digitValue? (c : Char) : Option Nat :=
  if 'a' ≤ c ∧ c ≤ 'z' then some (c.toNat - 'a'.toNat)
  else if 'A' ≤ c ∧ c ≤ 'Z' then some (c.toNat - 'A'.toNat)
  else if '0' ≤ c ∧ c ≤ '9' then some (c.toNat - '0'.toNat + 26)
  else none

/-- The threshold for the digit with so many digits before it: it is between 1 and 26. -/
def threshold (bias place : Nat) : Nat :=
  min 26 (max 1 (base * (place + 1) - bias))

/-- The digits of a number, from the digit with so many digits before it on. -/
def numberDigits (bias place n : Nat) : List Char :=
  let t := threshold bias place
  if n < t then [digitChar n]
  else
    digitChar (t + (n - t) % (base - t)) :: numberDigits bias (place + 1) ((n - t) / (base - t))
termination_by n
decreasing_by
  have ht : 0 < threshold bias place := by
    simp only [threshold]
    omega
  exact Nat.lt_of_le_of_lt (Nat.div_le_self _ _) (by omega)

/-! ### Bias -/

/-- How often a number has to be divided by 35 until it is at most 455, and what remains of it. -/
def reduce (n : Nat) : Nat × Nat :=
  if n ≤ 455 then (0, n)
  else
    let (times, rest) := reduce (n / 35)
    (times + 1, rest)
termination_by n
decreasing_by omega

/-- The bias after a number, for a text that has so many characters then. The first number tells
little about the next one. -/
def adapted (n length : Nat) (isFirst : Bool) : Nat :=
  let n := if isFirst then n / 700 else n / 2
  let (times, rest) := reduce (n + n / length)
  base * times + base * rest / (rest + 38)

/-- The bias before the first number. -/
def firstBias : Nat := 72

/-! ### Reading -/

/-- A text that characters are being put into: the code point and the place from which on the next
one is counted, and the bias for the number that says how far. -/
structure Filling where
  text : List Char
  code : Nat
  place : Nat
  bias : Nat

/-- The greatest number that is counted with. -/
def greatest : Nat := 4294967295

/-- Puts in the character that is found by counting on. -/
def Filling.putIn? (f : Filling) (n : Nat) : Option Filling :=
  let length := f.text.length + 1
  let code := f.code + (f.place + n) / length
  let place := (f.place + n) % length
  if h : code.isValidChar then
    some ⟨f.text.insertIdx place (Char.ofNatAux code h), code, place + 1,
      adapted n length (f.place = 0)⟩
  else none

/-- Reads numbers and puts in their characters. Of the number that is being read there are the count
of its digits so far, the weight of the next one and the value so far. -/
def fill? (f : Filling) (place weight n : Nat) : List Char → Option (List Char)
  | [] => if place = 0 then some f.text else none
  | c :: cs => do
    let d ← digitValue? c
    let n := n + d * weight
    let t := threshold f.bias place
    if greatest < f.place + n then none
    else if d < t then fill? (← f.putIn? n) 0 1 0 cs
    else if greatest < weight * (base - t) then none
    else fill? f (place + 1) (weight * (base - t)) n cs

/-- The text that is written, if there is one. A hyphen at the start separates nothing. -/
def decode? (cs : List Char) : Option (List Char) :=
  let code := (cs.reverse.takeWhile (· ≠ '-')).reverse
  let text := cs.take (cs.length - code.length - 1)
  if text = [] ∧ code ≠ cs then none
  else fill? ⟨text, firstBeyondAscii, 0, firstBias⟩ 0 1 0 code

/-! ### Writing -/

/-- The characters beyond ASCII with their indices, in the order in which they are put in. -/
def insertions (cs : List Char) : List (Nat × Nat) :=
  (cs.zipIdx.filterMap fun (c, i) => if isAscii c then none else some (c.toNat, i)).mergeSort
    fun a b => a.1 < b.1 || (a.1 = b.1 && a.2 ≤ b.2)

/-- Where a character is put in: behind the characters before it that are there already. -/
def placeOf (cs : List Char) (code index : Nat) : Nat :=
  ((cs.take index).filter fun c => c.toNat ≤ code).length

/-- The digits for the characters that are left to put in. -/
def fillDigits (cs : List Char) (code place length bias : Nat) : List (Nat × Nat) → List Char
  | [] => []
  | (c, index) :: rest =>
    let p := placeOf cs c index
    let n := (c - code) * (length + 1) + p - place
    numberDigits bias 0 n
      ++ fillDigits cs c (p + 1) (length + 1) (adapted n (length + 1) (place = 0)) rest

/-- A text in ASCII characters. -/
def encode (cs : List Char) : List Char :=
  let plain := cs.filter isAscii
  (if plain = [] then [] else plain ++ ['-'])
    ++ fillDigits cs firstBeyondAscii 0 plain.length firstBias (insertions cs)

/-! ### Numbers are read as they are written -/

/-- Digits are read as they are written. -/
theorem digitValue?_digitChar {d : Nat} (h : d < base) : digitValue? (digitChar d) = some d := by
  have hall : ∀ e : Fin base, digitValue? (digitChar e) = some e.val := by decide
  exact hall ⟨d, h⟩

/-- A threshold is positive, so that zero ends a number. -/
theorem threshold_pos (bias place : Nat) : 0 < threshold bias place := by
  simp only [threshold]
  omega

/-- A threshold is below the base. -/
theorem threshold_lt_base (bias place : Nat) : threshold bias place < base := by
  simp only [threshold, base]
  omega

/-- A number is read as it is written, whatever follows it, as long as it is not too great. -/
theorem fill?_numberDigits (f : Filling) (place weight n m : Nat) (rest : List Char)
    (h : base * (f.place + n + m * weight) ≤ greatest) :
    fill? f place weight n (numberDigits f.bias place m ++ rest) =
      (f.putIn? (n + m * weight)).bind fun g => fill? g 0 1 0 rest := by
  induction m using Nat.strongRecOn generalizing place weight n with
  | _ m ih =>
    have hpos := threshold_pos f.bias place
    have hlt := threshold_lt_base f.bias place
    rw [numberDigits]
    split
    · next hm =>
      have hd := digitValue?_digitChar (Nat.lt_trans hm hlt)
      have hg : ¬ greatest < f.place + (n + m * weight) := by
        have : f.place + n + m * weight ≤ base * (f.place + n + m * weight) :=
          Nat.le_mul_of_pos_left _ (by decide)
        omega
      simp only [List.cons_append, List.nil_append, fill?, hd, Option.bind_eq_bind,
        Option.bind_some, if_neg hg, if_pos hm]
    · next hm =>
      generalize ht : threshold f.bias place = t at hm hpos hlt ⊢
      have hr : (m - t) % (base - t) < base - t := Nat.mod_lt _ (by omega)
      have hd := digitValue?_digitChar (show t + (m - t) % (base - t) < base by omega)
      have hm' : t + (m - t) % (base - t) + (m - t) / (base - t) * (base - t) = m := by
        have := Nat.mod_add_div' (m - t) (base - t)
        omega
      have hsum : n + (t + (m - t) % (base - t)) * weight
          + (m - t) / (base - t) * (weight * (base - t)) = n + m * weight := by
        rw [Nat.mul_comm weight, ← Nat.mul_assoc, Nat.add_assoc, ← Nat.add_mul, hm']
      have hg : ¬ greatest < f.place + (n + (t + (m - t) % (base - t)) * weight) := by
        have : f.place + n + m * weight ≤ base * (f.place + n + m * weight) :=
          Nat.le_mul_of_pos_left _ (by decide)
        omega
      have hw : ¬ greatest < weight * (base - t) := by
        have h1 : weight ≤ m * weight := Nat.le_mul_of_pos_left _ (by omega)
        have h2 : weight * (base - t) ≤ base * (m * weight) := by
          rw [Nat.mul_comm]
          exact Nat.mul_le_mul (Nat.sub_le _ _) h1
        have h3 : base * (m * weight) ≤ base * (f.place + n + m * weight) :=
          Nat.mul_le_mul_left _ (Nat.le_add_left _ _)
        omega
      have hrec := ih ((m - t) / (base - t))
        (Nat.lt_of_le_of_lt (Nat.div_le_self _ _) (by omega)) (place + 1) (weight * (base - t))
        (n + (t + (m - t) % (base - t)) * weight)
        (by rw [Nat.add_assoc, hsum, ← Nat.add_assoc]; exact h)
      rw [hsum] at hrec
      simp only [List.cons_append, fill?, hd, ht, Option.bind_eq_bind, Option.bind_some, if_neg hg]
      rw [if_neg (by omega), if_neg hw]
      exact hrec

/-! ### What is written is ASCII -/

/-- The character of a digit is ASCII. -/
theorem isAscii_digitChar {d : Nat} (h : d < base) : isAscii (digitChar d) = true := by
  have hall : ∀ e : Fin base, isAscii (digitChar e) = true := by decide
  exact hall ⟨d, h⟩

/-- The digits of a number are ASCII. -/
theorem isAscii_of_mem_numberDigits {bias place n : Nat} {c : Char}
    (h : c ∈ numberDigits bias place n) : isAscii c = true := by
  induction n using Nat.strongRecOn generalizing place with
  | _ n ih =>
    have hpos := threshold_pos bias place
    have hlt := threshold_lt_base bias place
    rw [numberDigits] at h
    split at h
    · next hn =>
      obtain rfl := List.mem_singleton.1 h
      exact isAscii_digitChar (Nat.lt_trans hn hlt)
    · next hn =>
      rcases List.mem_cons.1 h with rfl | h
      · have hr := Nat.mod_lt (n - threshold bias place) (Nat.sub_pos_of_lt hlt)
        exact isAscii_digitChar (by omega)
      · exact ih _ (Nat.lt_of_le_of_lt (Nat.div_le_self _ _) (by omega)) h

/-- The digits for the characters that are put in are ASCII. -/
theorem isAscii_of_mem_fillDigits {cs : List Char} {steps : List (Nat × Nat)}
    {code place length bias : Nat} {c : Char}
    (h : c ∈ fillDigits cs code place length bias steps) : isAscii c = true := by
  induction steps generalizing code place length bias with
  | nil => contradiction
  | cons step steps ih =>
    rcases List.mem_append.1 h with h | h
    · exact isAscii_of_mem_numberDigits h
    · exact ih h

/-- What is written is ASCII. -/
theorem isAscii_of_mem_encode {cs : List Char} {c : Char} (h : c ∈ encode cs) :
    isAscii c = true := by
  have hplain : ∀ d ∈ cs.filter isAscii, isAscii d = true := fun d m => (List.mem_filter.1 m).2
  rcases List.mem_append.1 h with h | h
  · split at h
    · contradiction
    · rcases List.mem_append.1 h with h | h
      · exact hplain c h
      · obtain rfl := List.mem_singleton.1 h
        decide
  · exact isAscii_of_mem_fillDigits h

end Household.Text.Punycode
