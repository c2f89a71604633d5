import Household.Json.Printer
import Household.Proofs.Text.Numerals
import Mathlib.Data.List.Chain

/-!
# What Is Written Is Read Back

A quoted text reads as its characters, whatever they are. A number is read as far as its characters
go, so it is read back if no other number comes right after it; in a value there is always something
in between. So a value reads as it was written, if its numerals are proper.

## Main results

* `readPieces?_flatMap_quotedChar`: a text is read up to its closing quote.
* `tokens?_flatMap_written`: tokens are read back, if no number follows another one.
* `apart_tokens`: in the tokens of a value no number follows another one.
* `read?_written`: a value is read back.
* `ofOctets?_toUTF8`: octets spell the value of which the text has the tokens.
-/

namespace Household.Json

open Text

/-! ### Characters of a quoted text -/

/-- The last two hexadecimal digits of a control character give the character. -/
theorem hexQuad?_control : ∀ n < 0x20,
    hexQuad? '0' '0' (hexDigit (n / 16)) (hexDigit (n % 16)) = some n ∧
      Piece.ofNumber n = .char (Char.ofNat n) := by
  decide

/-- A quoted character is read as this character. -/
theorem readPieces?_quotedChar (c : Char) (rest : List Symbol) :
    readPieces? ((quotedChar c).map .char ++ rest) =
      (readPieces? rest).map fun (ps, rest) => (.char c :: ps, rest) := by
  unfold quotedChar
  split
  case h_8 _ hquote hslash _ _ _ _ _ =>
    split
    · next hcontrol =>
      obtain ⟨hquad, hpiece⟩ := hexQuad?_control c.toNat hcontrol
      rw [Char.ofNat_toNat] at hpiece
      simp only [List.map_cons, List.map_nil, List.cons_append, List.nil_append]
      rw [readPieces?, hquad, Option.bind_eq_bind, Option.bind_some, hpiece]
    · next hcontrol =>
      -- A character that stands for itself is neither a quote nor a backslash.
      rw [List.map_singleton, List.singleton_append, readPieces?]
      · rw [if_neg (not_or.mpr ⟨hslash, hcontrol⟩)]
      · exact hquote
      · exact fun _ _ _ _ _ _ => hslash
      · exact fun _ _ _ => hslash
  all_goals rfl

/-- A quoted text is read up to its closing quote. -/
theorem readPieces?_flatMap_quotedChar (cs : List Char) (rest : List Symbol) :
    readPieces? ((cs.flatMap quotedChar).map .char ++ .char '"' :: rest) =
      some (cs.map .char, rest) := by
  induction cs with
  | nil => rfl
  | cons c cs ih =>
    rw [List.flatMap_cons, List.map_append, List.append_assoc, readPieces?_quotedChar, ih]
    rfl

/-- Characters join to themselves. -/
theorem joinPieces_map_char (cs : List Char) : joinPieces (cs.map .char) = .ok cs := by
  induction cs with
  | nil => rfl
  | cons c cs ih =>
    rw [List.map_cons, joinPieces, ih]
    rfl

/-! ### Numbers -/

/-- The symbols do not go on with a character of a number. -/
def EndsNumber (rest : List Symbol) : Prop :=
  ∀ c, rest.head? = some (.char c) → isNumeric c = false

/-- Characters are taken up to the first one that does not satisfy the condition. -/
theorem takeChars_append {p : Char → Bool} {cs : List Char} {rest : List Symbol}
    (hcs : ∀ c ∈ cs, p c = true) (hrest : ∀ c, rest.head? = some (.char c) → p c = false) :
    Symbol.takeChars p (cs.map .char ++ rest) = cs := by
  induction cs with
  | nil =>
    match rest, hrest with
    | [], _ => rfl
    | .stray :: _, _ => rfl
    | .char c :: _, hrest =>
      rw [List.map_nil, List.nil_append, Symbol.takeChars, hrest c rfl, if_neg Bool.false_ne_true]
  | cons c cs ih =>
    obtain ⟨hc, hcs⟩ := List.forall_mem_cons.mp hcs
    rw [List.map_cons, List.cons_append, Symbol.takeChars, if_pos hc, ih hcs]

/-- A digit is a character of a number. -/
theorem isNumeric_of_isDigit {c : Char} (h : c.isDigit = true) : isNumeric c = true := by
  simp [isNumeric, h]

/-- A digit is no white space. -/
theorem isSpace_of_isDigit {c : Char} (h : c.isDigit = true) : isSpace c = false := by
  by_contra hspace
  simp only [isSpace, Bool.not_eq_false, Bool.or_eq_true, decide_eq_true_eq] at hspace
  rcases hspace with ((rfl | rfl) | rfl) | rfl <;> cases h

/-- A power of ten is written in characters of numbers. -/
theorem isNumeric_of_mem_exponentText {n : Numeral} (h : n.IsProper) :
    ∀ c ∈ n.exponentText, isNumeric c = true := by
  rw [Numeral.exponentText]
  cases hexponent : n.exponent with
  | none => exact fun c hc => absurd hc List.not_mem_nil
  | some e =>
    obtain ⟨negative, ds⟩ := e
    have hds : ∀ c ∈ ds, isNumeric c = true := fun c hc =>
      isNumeric_of_isDigit ((h.exponent _ hexponent).2 c hc)
    cases negative with
    | none => exact List.forall_mem_cons.mpr ⟨rfl, hds⟩
    | some sign =>
      cases sign <;> exact List.forall_mem_cons.mpr ⟨rfl, List.forall_mem_cons.mpr ⟨rfl, hds⟩⟩

/-- A proper numeral is written in characters of numbers. -/
theorem isNumeric_of_mem_text {n : Numeral} (h : n.IsProper) :
    ∀ c ∈ n.text, isNumeric c = true := by
  have hfraction : ∀ c ∈ n.fractionText, isNumeric c = true := by
    rw [Numeral.fractionText]
    split
    · exact fun c hc => absurd hc List.not_mem_nil
    · exact List.forall_mem_cons.mpr ⟨rfl, fun c hc => isNumeric_of_isDigit (h.fraction c hc)⟩
  have hsign : ∀ c ∈ (if n.negative then ['-'] else []), isNumeric c = true := by
    cases n.negative <;> simp [isNumeric]
  rw [Numeral.text_eq]
  refine List.forall_mem_append.mpr ⟨hsign, List.forall_mem_append.mpr
    ⟨fun c hc => isNumeric_of_isDigit (h.whole c hc), List.forall_mem_append.mpr ⟨hfraction, ?_⟩⟩⟩
  exact isNumeric_of_mem_exponentText h

/-- A proper numeral starts with a digit or a minus sign. -/
theorem exists_text_eq_cons {n : Numeral} (h : n.IsProper) :
    ∃ c cs, n.text = c :: cs ∧ (c.isDigit = true ∨ c = '-') := by
  obtain ⟨c, cs, hcons, hc⟩ := h.exists_whole_eq_cons
  rw [Numeral.text_eq, hcons]
  cases n.negative with
  | true => exact ⟨'-', _, rfl, .inr rfl⟩
  | false => exact ⟨c, _, rfl, .inl hc⟩

/-- A proper numeral is read back, if what comes after it is no character of a number. -/
theorem readNumber?_text {n : Numeral} (h : n.IsProper) {rest : List Symbol}
    (hrest : EndsNumber rest) : readNumber? (n.text.map .char ++ rest) = some (n, rest) := by
  rw [readNumber?, takeChars_append (isNumeric_of_mem_text h) hrest, Numeral.read?_text h,
    List.drop_left' (List.length_map _)]

/-- What starts with a digit or a minus sign is a number. -/
theorem nextToken?_of_numeral {c : Char} (h : c.isDigit = true ∨ c = '-') (cs : List Symbol) :
    nextToken? (.char c :: cs) =
      (readNumber? (.char c :: cs)).map fun (n, rest) => (.number n, rest) := by
  have hne {d : Char} (hd : ¬ (d.isDigit = true ∨ d = '-')) : c ≠ d := by
    rintro rfl
    exact hd h
  rw [nextToken?.eq_def]
  split
  case h_11 => rfl
  all_goals
    next heq =>
      obtain ⟨hchar, -⟩ := List.cons.inj heq
      exact absurd (Symbol.char.inj hchar) (hne (by decide))

/-! ### Tokens -/

/-- The token is a number. -/
def Token.isNumber : Token → Bool
  | .number _ => true
  | _ => false

/-- The token is properly written, if it is a number. -/
def Token.IsProper : Token → Prop
  | .number n => n.IsProper
  | _ => True

/-- A token is read back, whatever comes after it, but a number only if this is no part of one. -/
theorem nextToken?_written {t : Token} (h : t.IsProper) {rest : List Symbol}
    (hrest : t.isNumber = true → EndsNumber rest) :
    nextToken? (t.written.map .char ++ rest) = some (t, rest) := by
  cases t with
  | number n =>
    obtain ⟨c, cs, hcons, hc⟩ := exists_text_eq_cons h
    have hread := readNumber?_text h (hrest rfl)
    rw [hcons] at hread
    rw [Token.written, hcons, List.map_cons, List.cons_append, nextToken?_of_numeral hc]
    rw [List.map_cons, List.cons_append] at hread
    rw [hread, Option.map_some]
  | bool b => cases b <;> rfl
  | garbled flaw => cases flaw <;> rfl
  | text s =>
    rw [Token.written, quoted, List.cons_append, List.map_cons, List.cons_append, List.map_append,
      List.append_assoc, List.map_singleton, List.singleton_append, nextToken?,
      readPieces?_flatMap_quotedChar, Option.map_some]
    dsimp only
    rw [Token.ofPieces, joinPieces_map_char]
    dsimp only
    rw [String.ofList_toList]
  | _ => rfl

/-- A token starts with a character that is no white space, and with one that is no part of a number
if the token is no number. -/
theorem exists_written_eq_cons {t : Token} (h : t.IsProper) :
    ∃ c cs, t.written = c :: cs ∧ isSpace c = false ∧
      (t.isNumber = false → isNumeric c = false) := by
  cases t with
  | number n =>
    obtain ⟨c, cs, hcons, hc⟩ := exists_text_eq_cons h
    refine ⟨c, cs, hcons, ?_, fun hnot => absurd hnot (by simp [Token.isNumber])⟩
    rcases hc with hc | rfl
    · exact isSpace_of_isDigit hc
    · rfl
  | bool b => cases b <;> exact ⟨_, _, rfl, rfl, fun _ => rfl⟩
  | garbled flaw => cases flaw <;> exact ⟨_, _, rfl, rfl, fun _ => rfl⟩
  | _ => exact ⟨_, _, rfl, rfl, fun _ => rfl⟩

/-- In the tokens no number follows another one. -/
def Apart (ts : List Token) : Prop :=
  ts.IsChain fun t u => t.isNumber = true → u.isNumber = false

/-- Where no number follows, no number goes on. -/
theorem endsNumber_flatMap_written {ts : List Token} (h : ∀ t ∈ ts, t.IsProper)
    (hhead : ∀ t ∈ ts.head?, t.isNumber = false) :
    EndsNumber ((ts.flatMap Token.written).map .char) := by
  cases ts with
  | nil => exact fun c hc => by cases hc
  | cons t ts =>
    obtain ⟨c, cs, hwritten, -, hnumeric⟩ := exists_written_eq_cons (h t List.mem_cons_self)
    rw [List.flatMap_cons, hwritten]
    rintro d hd
    obtain rfl := Symbol.char.inj (Option.some.inj hd)
    exact hnumeric (hhead t rfl)

/-- Tokens of which no number follows another one are read back, if they are read to their end. -/
theorem tokensWithin_flatMap_written {ts : List Token} (h : ∀ t ∈ ts, t.IsProper)
    (hapart : Apart ts) {budget : Nat} (hbudget : (ts.flatMap Token.written).length ≤ budget) :
    tokensWithin budget ((ts.flatMap Token.written).map .char) = some ts := by
  induction ts generalizing budget with
  | nil =>
    rw [List.flatMap_nil, List.map_nil, tokensWithin]
  | cons t ts ih =>
    obtain ⟨ht, hts⟩ := List.forall_mem_cons.mp h
    obtain ⟨hhead, hapart⟩ := List.isChain_cons.mp hapart
    have hnext : nextToken? (t.written.map .char ++ (ts.flatMap Token.written).map .char) =
        some (t, (ts.flatMap Token.written).map .char) :=
      nextToken?_written ht fun hnumber =>
        endsNumber_flatMap_written hts fun u hu => hhead u hu hnumber
    obtain ⟨c, cs, hwritten, hspace, -⟩ := exists_written_eq_cons ht
    rw [List.flatMap_cons, List.length_append] at hbudget
    rw [List.flatMap_cons, List.map_append]
    rw [hwritten] at hbudget hnext ⊢
    rw [List.length_cons] at hbudget
    obtain ⟨left, rfl⟩ : ∃ left, budget = left + 1 := ⟨budget - 1, by omega⟩
    rw [List.map_cons, List.cons_append] at hnext ⊢
    rw [tokensWithin, if_neg (by rw [isSpaceSymbol, hspace]; exact Bool.false_ne_true), hnext,
      Option.bind_eq_bind, Option.bind_some]
    dsimp only
    rw [ih hts hapart (by omega), Option.map_some]

/-- **Tokens are read back, if no number follows another one.** -/
theorem tokens?_flatMap_written {ts : List Token} (h : ∀ t ∈ ts, t.IsProper) (hapart : Apart ts) :
    tokens? ((ts.flatMap Token.written).map .char) = some ts :=
  tokensWithin_flatMap_written h hapart (Nat.le_of_eq (List.length_map _).symm)

/-! ### Values -/

/-- A token that is no number may stand before any others. -/
theorem apart_cons {t : Token} (h : t.isNumber = false) {ts : List Token} (hts : Apart ts) :
    Apart (t :: ts) :=
  List.isChain_cons.mpr ⟨fun _ _ hnumber => absurd (h.symm.trans hnumber) Bool.false_ne_true, hts⟩

mutual
/-- In the tokens of a value no number follows another one, also with others after them that do not
start with a number. -/
theorem apart_tokens_append (v : Json) {ts : List Token} (hts : Apart ts)
    (hhead : ∀ t ∈ ts.head?, t.isNumber = false) : Apart (v.tokens ++ ts) := by
  match v with
  | .null => exact apart_cons rfl hts
  | .bool b => exact apart_cons rfl hts
  | .number n => exact List.isChain_cons.mpr ⟨fun t ht _ => hhead t ht, hts⟩
  | .text s => exact apart_cons rfl hts
  | .array items => exact apart_cons rfl (apart_itemTokens_append items hts)
  | .object members => exact apart_cons rfl (apart_memberTokens_append members hts)
  | .garbled flaw => exact apart_cons rfl hts
termination_by sizeOf v

/-- The same for the items of an array. -/
theorem apart_itemTokens_append (vs : List Json) {ts : List Token} (hts : Apart ts) :
    Apart (itemTokens vs ++ ts) := by
  match vs with
  | [] => exact apart_cons rfl hts
  | [v] =>
    rw [itemTokens, List.append_assoc]
    exact apart_tokens_append v (apart_cons rfl hts) (by simp [Token.isNumber])
  | v :: w :: vs =>
    rw [itemTokens, List.append_assoc]
    exact apart_tokens_append v (apart_cons rfl (apart_itemTokens_append (w :: vs) hts))
      (by simp [Token.isNumber])
termination_by sizeOf vs

/-- The same for the members of an object. -/
theorem apart_memberTokens_append (ms : List (String × Json)) {ts : List Token} (hts : Apart ts) :
    Apart (memberTokens ms ++ ts) := by
  match ms with
  | [] => exact apart_cons rfl hts
  | [(s, v)] =>
    rw [memberTokens, List.append_assoc]
    exact apart_cons rfl (apart_cons rfl
      (apart_tokens_append v (apart_cons rfl hts) (by simp [Token.isNumber])))
  | (s, v) :: m :: ms =>
    rw [memberTokens, List.append_assoc]
    exact apart_cons rfl (apart_cons rfl (apart_tokens_append v
      (apart_cons rfl (apart_memberTokens_append (m :: ms) hts)) (by simp [Token.isNumber])))
termination_by sizeOf ms
end

/-- **In the tokens of a value no number follows another one.** -/
theorem apart_tokens (v : Json) : Apart v.tokens := by
  rw [← List.append_nil v.tokens]
  exact apart_tokens_append v List.isChain_nil (by simp)

/-- All numerals of the value are proper. -/
def IsProper (v : Json) : Prop :=
  ∀ t ∈ v.tokens, t.IsProper

/-- The numerals between the brackets of an array are those of its items. -/
theorem forall_mem_itemTokens_iff (vs : List Json) :
    (∀ t ∈ itemTokens vs, t.IsProper) ↔ ∀ v ∈ vs, v.IsProper := by
  match vs with
  | [] => simp [itemTokens, Token.IsProper]
  | [v] => simp [itemTokens, IsProper, Token.IsProper, or_imp, forall_and]
  | v :: w :: vs =>
    have hlater := forall_mem_itemTokens_iff (w :: vs)
    have hcomma : Token.comma.IsProper := trivial
    have hv : v.IsProper ↔ ∀ t ∈ v.tokens, t.IsProper := Iff.rfl
    simp only [itemTokens, List.forall_mem_append, List.forall_mem_cons, hlater, hcomma, hv,
      true_and]

/-- The numerals between the brackets of an object are those of the values of its members. -/
theorem forall_mem_memberTokens_iff (ms : List (String × Json)) :
    (∀ t ∈ memberTokens ms, t.IsProper) ↔ ∀ m ∈ ms, m.2.IsProper := by
  match ms with
  | [] => simp [memberTokens, Token.IsProper]
  | [(s, v)] => simp [memberTokens, IsProper, Token.IsProper, or_imp, forall_and]
  | (s, v) :: m :: ms =>
    have hlater := forall_mem_memberTokens_iff (m :: ms)
    have hname : (Token.text s).IsProper ∧ Token.colon.IsProper ∧ Token.comma.IsProper :=
      ⟨trivial, trivial, trivial⟩
    have hv : v.IsProper ↔ ∀ t ∈ v.tokens, t.IsProper := Iff.rfl
    simp only [memberTokens, List.forall_mem_append, List.forall_mem_cons, hlater, hname, hv,
      true_and]

@[simp] theorem isProper_null : Json.null.IsProper := by
  simp [IsProper, tokens, Token.IsProper]

@[simp] theorem isProper_text (s : String) : (Json.text s).IsProper := by
  simp [IsProper, tokens, Token.IsProper]

@[simp] theorem isProper_int (n : Int) : (int n).IsProper :=
  List.forall_mem_singleton.mpr (Text.Numeral.isProper_ofInt n)

@[simp] theorem isProper_word (n : Int64) : (word n).IsProper :=
  isProper_int n.toInt

@[simp] theorem isProper_array_iff {vs : List Json} :
    (Json.array vs).IsProper ↔ ∀ v ∈ vs, v.IsProper := by
  rw [IsProper, tokens, List.forall_mem_cons, forall_mem_itemTokens_iff]
  exact and_iff_right trivial

@[simp] theorem isProper_object_iff {ms : List (String × Json)} :
    (Json.object ms).IsProper ↔ ∀ m ∈ ms, m.2.IsProper := by
  rw [IsProper, tokens, List.forall_mem_cons, forall_mem_memberTokens_iff]
  exact and_iff_right trivial

/-- **A value is read back.** -/
theorem read?_written {v : Json} (h : v.IsProper) : read? v.written = some v := by
  rw [read?, ofSymbols?, written, tokens?_flatMap_written h (apart_tokens v), Option.bind_some,
    ofTokens?_tokens]

/-- A text spells a value if it has the tokens of the value. -/
theorem ofOctets?_toUTF8 {s : String} {v : Json}
    (h : tokens? (s.toList.map .char) = some v.tokens) :
    ofOctets? s.toUTF8.data.toList = some v := by
  rw [ofOctets?, Symbol.ofOctets_toUTF8, ofSymbols?, h, Option.bind_some, ofTokens?_tokens]

end Household.Json
