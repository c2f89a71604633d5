import Household.Text.Decimal

/-!
# Written Numbers

A number as it is written in JSON: an optional minus sign, the digits before the point, an optional
fraction and an optional power of ten. What number it stands for is another matter: `int?` reads
the ones that are written as whole numbers.

## Main results

* `int?_ofInt`: a whole number reads back from its numeral.
-/

namespace Household.Text

/-- A power of ten after the letter `e`: `negative` is the sign, if one is written. -/
structure Exponent where
  negative : Option Bool
  digits : List Char
deriving DecidableEq, Repr

/-- A written number. No digits after the point mean that there is no point. -/
structure Numeral where
  negative : Bool
  whole : List Char
  fraction : List Char
  exponent : Option Exponent
deriving DecidableEq, Repr

namespace Exponent

/-- The exponent with its letter. -/
def text (e : Exponent) : List Char :=
  'e' :: match e.negative with
    | some true => '-' :: e.digits
    | some false => '+' :: e.digits
    | none => e.digits

/-- The power of ten. -/
def toInt (e : Exponent) : Int :=
  if e.negative = some true then -(Text.value e.digits : Int) else Text.value e.digits

end Exponent

namespace Numeral

/-- The number as it is written. -/
def text (n : Numeral) : List Char :=
  (if n.negative then ['-'] else []) ++ n.whole
    ++ (if n.fraction = [] then [] else '.' :: n.fraction)
    ++ (match n.exponent with
      | some e => e.text
      | none => [])

/-- The digits before the point are written as JSON asks: at least one, and no leading zero. -/
def WholeDigits (ds : List Char) : Prop :=
  ds ≠ [] ∧ (ds.head? = some '0' → ds = ['0'])

instance (ds : List Char) : Decidable (WholeDigits ds) :=
  inferInstanceAs (Decidable (_ ∧ _))

/-- An optional fraction: a point needs at least one digit after it. -/
def readFraction? : List Char → Option (List Char × List Char)
  | '.' :: cs =>
    let (ds, rest) := spanDigits cs
    if ds = [] then none else some (ds, rest)
  | cs => some ([], cs)

/-- The digits of an exponent. -/
def readExponentDigits? (sign : Option Bool) (cs : List Char) : Option (Exponent × List Char) :=
  let (ds, rest) := spanDigits cs
  if ds = [] then none else some (⟨sign, ds⟩, rest)

/-- An exponent after its letter. -/
def readExponent? : List Char → Option (Exponent × List Char)
  | '+' :: cs => readExponentDigits? (some false) cs
  | '-' :: cs => readExponentDigits? (some true) cs
  | cs => readExponentDigits? none cs

/-- An optional exponent. -/
def readOptionalExponent? : List Char → Option (Option Exponent × List Char)
  | 'e' :: cs => (readExponent? cs).map fun (e, rest) => (some e, rest)
  | 'E' :: cs => (readExponent? cs).map fun (e, rest) => (some e, rest)
  | cs => some (none, cs)

/-- The number without its sign. -/
def readUnsigned? (negative : Bool) (cs : List Char) : Option (Numeral × List Char) := do
  let (whole, cs) := spanDigits cs
  if WholeDigits whole then
    let (fraction, cs) ← readFraction? cs
    let (exponent, cs) ← readOptionalExponent? cs
    return ({ negative, whole, fraction, exponent }, cs)
  else none

/-- The number that a text starts with, and what follows it. -/
def read? : List Char → Option (Numeral × List Char)
  | '-' :: cs => readUnsigned? true cs
  | cs => readUnsigned? false cs

/-- The numeral of a whole number. -/
def ofInt (n : Int) : Numeral :=
  { negative := n < 0, whole := digits n.natAbs, fraction := [], exponent := none }

/-- The whole number that is written; none for numbers with a point or an exponent, and none for
zero with a minus sign. -/
def int? (n : Numeral) : Option Int :=
  if n.fraction = [] ∧ n.exponent = none then
    if n.negative then if value n.whole = 0 then none else some (-(value n.whole : Int))
    else some (value n.whole)
  else none

/-- A whole number reads back from its numeral. -/
theorem int?_ofInt (n : Int) : (ofInt n).int? = some n := by
  simp only [int?, ofInt, value_digits, and_self, if_true, decide_eq_true_eq]
  split
  · split
    · omega
    · simp only [Option.some.injEq]; omega
  · simp only [Option.some.injEq]; omega

end Numeral

end Household.Text
