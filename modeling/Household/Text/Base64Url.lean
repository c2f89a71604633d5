/-!
# Base64 for URLs

Octets written with the letters, digits, `-` and `_`, six bits to the character and without padding.
A text has one reading at most and octets have one written form: spare bits at the end must be zero
and a single character at the end is refused.

## Main results

* `decode?_encode`: what was written reads back.
* `point_notMem_encode`: no point is written.
-/

namespace Household.Text.Base64Url

/-- The six bits of a character. -/
def sextet? (c : Char) : Option Nat :=
  if 'A' ≤ c ∧ c ≤ 'Z' then some (c.toNat - 'A'.toNat)
  else if 'a' ≤ c ∧ c ≤ 'z' then some (c.toNat - 'a'.toNat + 26)
  else if '0' ≤ c ∧ c ≤ '9' then some (c.toNat - '0'.toNat + 52)
  else if c = '-' then some 62
  else if c = '_' then some 63
  else none

/-- The character for six bits. -/
def sextetChar (n : Nat) : Char :=
  if n < 26 then Char.ofNat ('A'.toNat + n)
  else if n < 52 then Char.ofNat ('a'.toNat + (n - 26))
  else if n < 62 then Char.ofNat ('0'.toNat + (n - 52))
  else if n = 62 then '-'
  else '_'

/-- The octets of a text. -/
def decode? : List Char → Option (List UInt8)
  | [] => some []
  | [_] => none
  | [a, b] => do
    let n := (← sextet? a) * 64 + (← sextet? b)
    if n % 16 = 0 then some [UInt8.ofNat (n / 16)] else none
  | [a, b, c] => do
    let n := ((← sextet? a) * 64 + (← sextet? b)) * 64 + (← sextet? c)
    if n % 4 = 0 then some [UInt8.ofNat (n / 1024), UInt8.ofNat (n / 4)] else none
  | a :: b :: c :: d :: rest => do
    let n := (((← sextet? a) * 64 + (← sextet? b)) * 64 + (← sextet? c)) * 64 + (← sextet? d)
    let octets ← decode? rest
    return UInt8.ofNat (n / 65536) :: UInt8.ofNat (n / 256) :: UInt8.ofNat n :: octets

/-- The text of some octets. -/
def encode : List UInt8 → List Char
  | [] => []
  | [a] =>
    let n := a.toNat * 16
    [sextetChar (n / 64), sextetChar (n % 64)]
  | [a, b] =>
    let n := (a.toNat * 256 + b.toNat) * 4
    [sextetChar (n / 4096), sextetChar (n / 64 % 64), sextetChar (n % 64)]
  | a :: b :: c :: rest =>
    let n := (a.toNat * 256 + b.toNat) * 256 + c.toNat
    sextetChar (n / 262144) :: sextetChar (n / 4096 % 64) :: sextetChar (n / 64 % 64)
      :: sextetChar (n % 64) :: encode rest

/-! ### Reading back -/

/-- A character stands for the number that it was chosen for. -/
theorem sextet?_sextetChar {n : Nat} (h : n < 64) : sextet? (sextetChar n) = some n := by
  have : ∀ k : Fin 64, sextet? (sextetChar k) = some k.val := by decide
  exact this ⟨n, h⟩

/-- What was written reads back. -/
theorem decode?_encode (octets : List UInt8) : decode? (encode octets) = some octets := by
  fun_induction encode octets with
  | case1 => rfl
  | case2 a n =>
    have ha := a.toNat_lt
    simp only [decode?, sextet?_sextetChar (show n / 64 < 64 by omega),
      sextet?_sextetChar (show n % 64 < 64 by omega), Option.bind_eq_bind, Option.bind_some]
    rw [if_pos (by omega), show (n / 64 * 64 + n % 64) / 16 = a.toNat by omega, UInt8.ofNat_toNat]
  | case3 a b n =>
    have ha := a.toNat_lt
    have hb := b.toNat_lt
    simp only [decode?, sextet?_sextetChar (show n / 4096 < 64 by omega),
      sextet?_sextetChar (show n / 64 % 64 < 64 by omega),
      sextet?_sextetChar (show n % 64 < 64 by omega), Option.bind_eq_bind, Option.bind_some]
    rw [if_pos (by omega)]
    congr 2
    · exact UInt8.toNat_inj.1 (by rw [UInt8.toNat_ofNat']; omega)
    · congr 1
      exact UInt8.toNat_inj.1 (by rw [UInt8.toNat_ofNat']; omega)
  | case4 a b c rest n ih =>
    have ha := a.toNat_lt
    have hb := b.toNat_lt
    have hc := c.toNat_lt
    simp only [decode?, sextet?_sextetChar (show n / 262144 < 64 by omega),
      sextet?_sextetChar (show n / 4096 % 64 < 64 by omega),
      sextet?_sextetChar (show n / 64 % 64 < 64 by omega),
      sextet?_sextetChar (show n % 64 < 64 by omega), ih, Option.bind_eq_bind, Option.bind_some]
    congr 2
    · exact UInt8.toNat_inj.1 (by rw [UInt8.toNat_ofNat']; omega)
    · congr 1
      · exact UInt8.toNat_inj.1 (by rw [UInt8.toNat_ofNat']; omega)
      · congr 1
        exact UInt8.toNat_inj.1 (by rw [UInt8.toNat_ofNat']; omega)

/-! ### Points -/

/-- No written octets contain a point. -/
theorem point_notMem_encode (octets : List UInt8) : '.' ∉ encode octets := by
  have hchar : ∀ {n : Nat}, n < 64 → '.' ≠ sextetChar n := by
    have : ∀ k : Fin 64, '.' ≠ sextetChar k := by decide
    exact fun {n} h => this ⟨n, h⟩
  fun_induction encode octets with
  | case1 => exact List.not_mem_nil
  | case2 a n =>
    have ha := a.toNat_lt
    simp only [List.mem_cons, List.not_mem_nil, or_false, not_or]
    exact ⟨hchar (by omega), hchar (by omega)⟩
  | case3 a b n =>
    have ha := a.toNat_lt
    have hb := b.toNat_lt
    simp only [List.mem_cons, List.not_mem_nil, or_false, not_or]
    exact ⟨hchar (by omega), hchar (by omega), hchar (by omega)⟩
  | case4 a b c rest n ih =>
    have ha := a.toNat_lt
    have hb := b.toNat_lt
    have hc := c.toNat_lt
    simp only [List.mem_cons, not_or]
    exact ⟨hchar (by omega), hchar (by omega), hchar (by omega), hchar (by omega), ih⟩

end Household.Text.Base64Url
