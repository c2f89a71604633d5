import Household.Json.Basic

/-!
# JSON Tokens

A JSON text is a sequence of tokens with white space between them: brackets, commas and colons,
three words, numbers and quoted texts. White space is the space, the tab, the line feed and the
carriage return.

What is read are symbols: the characters of a text, or what some octets spell, among them stray
octets, which are part of no character. Stray octets can stand in quoted texts only.

## Main results

* `Symbol.ofOctets_toUTF8`: the octets of a text spell its characters.
-/

namespace Household.Json

open Text

/-- A token of a JSON text. -/
inductive Token
  | openArray
  | closeArray
  | openObject
  | closeObject
  | comma
  | colon
  | null
  | bool (b : Bool)
  | number (n : Numeral)
  | text (s : String)
  /-- A text that stands for no characters. -/
  | garbled (flaw : Flaw)
deriving DecidableEq

/-! ### Symbols -/

/-- What a JSON text is read from. -/
inductive Symbol
  | char (c : Char)
  /-- An octet that is part of no character. -/
  | stray
deriving DecidableEq

namespace Symbol

/-- The character that some octets start with. -/
def firstChar? (octets : List UInt8) : Option Char :=
  [1, 2, 3, 4].findSome? fun n =>
    (String.fromUTF8? ⟨(octets.take n).toArray⟩).bind (·.toList.head?)

/-- The symbols that octets spell, read from their start. -/
def spell : List UInt8 → List Symbol
  | [] => []
  | b :: bs =>
    match firstChar? (b :: bs) with
    | some c => .char c :: spell (bs.drop (c.utf8Size - 1))
    | none => .stray :: spell bs
termination_by octets => octets.length

/-- The symbols that octets spell. Octets of a text are taken as that text. -/
def ofOctets (octets : List UInt8) : List Symbol :=
  match String.fromUTF8? ⟨octets.toArray⟩ with
  | some s => s.toList.map .char
  | none => spell octets

/-- The characters that symbols start with, as long as they satisfy a condition. -/
def takeChars (p : Char → Bool) : List Symbol → List Char
  | .char c :: cs => if p c then c :: takeChars p cs else []
  | _ => []

end Symbol

/-! ### Quoted texts -/

/-- The value of a hexadecimal digit. -/
def hexValue? (c : Char) : Option Nat :=
  if c.isDigit then some (c.toNat - '0'.toNat)
  else if 'a' ≤ c ∧ c ≤ 'f' then some (c.toNat - 'a'.toNat + 10)
  else if 'A' ≤ c ∧ c ≤ 'F' then some (c.toNat - 'A'.toNat + 10)
  else none

/-- The number of four hexadecimal digits. -/
def hexQuad? (a b c d : Char) : Option Nat := do
  return (((← hexValue? a) * 16 + (← hexValue? b)) * 16 + (← hexValue? c)) * 16 + (← hexValue? d)

/-- The character with this code point, if there is one. -/
def scalar? (n : Nat) : Option Char :=
  if h : n.isValidChar then some (Char.ofNatAux n h) else none

/-- The character of a surrogate pair. -/
def surrogatePair? (high low : Nat) : Option Char :=
  if 0xD800 ≤ high ∧ high < 0xDC00 ∧ 0xDC00 ≤ low ∧ low < 0xE000 then
    scalar? (0x10000 + (high - 0xD800) * 0x400 + (low - 0xDC00))
  else none

/-- The character of a one-letter escape. -/
def shortEscape? : Char → Option Char
  | '"' => some '"'
  | '\\' => some '\\'
  | '/' => some '/'
  | 'b' => some '\x08'
  | 'f' => some '\x0c'
  | 'n' => some '\n'
  | 'r' => some '\r'
  | 't' => some '\t'
  | _ => none

/-- A piece of a quoted text: a character, an escape for half of a surrogate pair, or a stray
octet. -/
inductive Piece
  | char (c : Char)
  | half (n : Nat)
  | stray
deriving DecidableEq

/-- The piece that an escaped number stands for. -/
def Piece.ofNumber (n : Nat) : Piece :=
  match scalar? n with
  | some c => .char c
  | none => .half n

/-- Reads a text up to its closing quote: its pieces and what follows the quote. -/
def readPieces? : List Symbol → Option (List Piece × List Symbol)
  | .char '"' :: rest => some ([], rest)
  | .char '\\' :: .char 'u' :: .char a :: .char b :: .char c :: .char d :: rest => do
    let n ← hexQuad? a b c d
    (readPieces? rest).map fun (ps, rest) => (.ofNumber n :: ps, rest)
  | .char '\\' :: .char c :: rest => do
    let ch ← shortEscape? c
    (readPieces? rest).map fun (ps, rest) => (.char ch :: ps, rest)
  | .char c :: rest =>
    if c = '\\' ∨ c.toNat < 0x20 then none
    else (readPieces? rest).map fun (ps, rest) => (.char c :: ps, rest)
  | .stray :: rest => (readPieces? rest).map fun (ps, rest) => (.stray :: ps, rest)
  | [] => none

/-- The characters of a text. They are looked at from left to right: half of a surrogate pair needs
the other half right after it, and its absence is noticed there, which is the end of the text if the
first half is the last piece. Stray octets are noticed at the end. -/
def joinPieces : List Piece → Except Flaw (List Char)
  | [] => .ok []
  | .char c :: ps => (joinPieces ps).map (c :: ·)
  | .stray :: ps =>
    match joinPieces ps with
    | .error .within => .error .within
    | _ => .error .atEnd
  | .half high :: .half low :: ps =>
    match surrogatePair? high low with
    | some c => (joinPieces ps).map (c :: ·)
    | none => .error .within
  | [.half n] => .error (if n < 0xDC00 then .atEnd else .within)
  | .half _ :: _ => .error .within

/-- The hexadecimal digit of a number below sixteen, in lower case. -/
def hexDigit (n : Nat) : Char :=
  if n < 10 then Char.ofNat ('0'.toNat + n) else Char.ofNat ('a'.toNat + (n - 10))

/-- One character of a quoted text. Quotes, backslashes and controls are escaped, all else stands
for itself. -/
def quotedChar (c : Char) : List Char :=
  match c with
  | '"' => ['\\', '"']
  | '\\' => ['\\', '\\']
  | '\x08' => ['\\', 'b']
  | '\t' => ['\\', 't']
  | '\n' => ['\\', 'n']
  | '\x0c' => ['\\', 'f']
  | '\r' => ['\\', 'r']
  | c =>
    if c.toNat < 0x20 then
      ['\\', 'u', '0', '0', hexDigit (c.toNat / 16), hexDigit (c.toNat % 16)]
    else [c]

/-- A text between its quotes. -/
def quoted (cs : List Char) : List Char :=
  '"' :: cs.flatMap quotedChar ++ ['"']

/-! ### Tokens of a text -/

/-- The token of a quoted text. -/
def Token.ofPieces (ps : List Piece) : Token :=
  match joinPieces ps with
  | .ok cs => .text (String.ofList cs)
  | .error flaw => .garbled flaw

/-- The white space of JSON. -/
def isSpace (c : Char) : Bool :=
  c = ' ' || c = '\t' || c = '\n' || c = '\r'

/-- The characters of which numbers are made. -/
def isNumeric (c : Char) : Bool :=
  c.isDigit || c = '-' || c = '+' || c = '.' || c = 'e' || c = 'E'

/-- The number that a text starts with, which goes as far as its characters do, and what follows
it. -/
def readNumber? (cs : List Symbol) : Option (Numeral × List Symbol) :=
  let run := Symbol.takeChars isNumeric cs
  match Numeral.read? run with
  | some (n, []) => some (n, cs.drop run.length)
  | _ => none

/-- The token that a text starts with, and what follows it. -/
def nextToken? : List Symbol → Option (Token × List Symbol)
  | .char '[' :: cs => some (.openArray, cs)
  | .char ']' :: cs => some (.closeArray, cs)
  | .char '\x7b' :: cs => some (.openObject, cs)
  | .char '\x7d' :: cs => some (.closeObject, cs)
  | .char ',' :: cs => some (.comma, cs)
  | .char ':' :: cs => some (.colon, cs)
  | .char 'n' :: .char 'u' :: .char 'l' :: .char 'l' :: cs => some (.null, cs)
  | .char 't' :: .char 'r' :: .char 'u' :: .char 'e' :: cs => some (.bool true, cs)
  | .char 'f' :: .char 'a' :: .char 'l' :: .char 's' :: .char 'e' :: cs => some (.bool false, cs)
  | .char '"' :: cs => (readPieces? cs).map fun (ps, rest) => (Token.ofPieces ps, rest)
  | cs => (readNumber? cs).map fun (n, rest) => (.number n, rest)

/-- White space is skipped. -/
def isSpaceSymbol : Symbol → Bool
  | .char c => isSpace c
  | .stray => false

/-- The tokens of a text, at most `budget` symbols and tokens of it. -/
def tokensWithin : Nat → List Symbol → Option (List Token)
  | _, [] => some []
  | 0, _ :: _ => none
  | budget + 1, c :: cs =>
    if isSpaceSymbol c then tokensWithin budget cs
    else do
      let (t, rest) ← nextToken? (c :: cs)
      (tokensWithin budget rest).map (t :: ·)

/-- The tokens of a text. Every step takes at least one symbol off, so the length of the text is
enough of a budget. -/
def tokens? (cs : List Symbol) : Option (List Token) :=
  tokensWithin cs.length cs

/-- A token as it is written. -/
def Token.written : Token → List Char
  | .openArray => ['[']
  | .closeArray => [']']
  | .openObject => ['\x7b']
  | .closeObject => ['\x7d']
  | .comma => [',']
  | .colon => [':']
  | .null => ['n', 'u', 'l', 'l']
  | .bool true => ['t', 'r', 'u', 'e']
  | .bool false => ['f', 'a', 'l', 's', 'e']
  | .number n => n.text
  | .text s => quoted s.toList
  | .garbled .atEnd => ['"', '\\', 'u', 'd', '8', '0', '0', '"']
  | .garbled .within => ['"', '\\', 'u', 'd', 'c', '0', '0', '"']

/-! ### Octets of a text -/

/-- The octets of a text are read as the text. -/
theorem fromUTF8?_toUTF8 (s : String) : String.fromUTF8? s.toUTF8 = some s := by
  have hs : s.toUTF8.IsValidUTF8 := s.isValidUTF8
  rw [String.fromUTF8?, dif_pos hs]
  rfl

/-- The octets of a text spell its characters. -/
theorem Symbol.ofOctets_toUTF8 (s : String) :
    Symbol.ofOctets s.toUTF8.data.toList = s.toList.map .char := by
  rw [ofOctets, Array.toArray_toList, fromUTF8?_toUTF8]

end Household.Json
