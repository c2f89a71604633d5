import Household.Proofs.Json.Reading

/-!
# What Breaks Off Is Not Read

The text of a value shows where it ends, unless it ends with a number. So the first part of a text
without numbers is no text: either it breaks off within a token, or the tokens do not come to an end
where it does. This holds of octets as well, since those that break off within a character are no
UTF-8.

## Main results

* `read?_of_prefix`: a first part of the text of a value without numbers is not read.
* `prefix_of_fromUTF8?_extract`: a text that is read from the first octets of a text is a first part
  of it.
-/

namespace Household.Json

/-! ### Tokens -/

/-- The pieces after a first one are read also if more follows. -/
theorem exists_readPieces?_of_map_cons {cs rest : List Symbol} {p : Piece} {ps : List Piece}
    (h : (readPieces? cs).map (fun (ps, rest) => (p :: ps, rest)) = some (ps, rest)) :
    ∃ qs, readPieces? cs = some (qs, rest) ∧ ps = p :: qs := by
  obtain ⟨⟨qs, rest'⟩, hread, heq⟩ := Option.map_eq_some_iff.mp h
  obtain ⟨rfl, rfl⟩ := Prod.mk.inj heq
  exact ⟨qs, hread, rfl⟩

/-- What is read of a quoted text is read also if more follows. -/
theorem readPieces?_append {cs rest : List Symbol} {ps : List Piece}
    (h : readPieces? cs = some (ps, rest)) (more : List Symbol) :
    readPieces? (cs ++ more) = some (ps, rest ++ more) := by
  induction cs using readPieces?.induct generalizing ps rest with
  | case1 cs =>
    rw [readPieces?] at h
    obtain ⟨rfl, rfl⟩ := Prod.mk.inj (Option.some.inj h)
    rfl
  | case2 a b c d cs ih =>
    rw [readPieces?] at h
    obtain ⟨n, hquad, h⟩ := Option.bind_eq_some_iff.mp h
    obtain ⟨qs, hread, rfl⟩ := exists_readPieces?_of_map_cons h
    simp only [List.cons_append]
    rw [readPieces?, hquad, Option.bind_eq_bind, Option.bind_some, ih hread, Option.map_some]
  | case3 c cs hfour ih =>
    rw [readPieces?] at h
    · obtain ⟨ch, hescape, h⟩ := Option.bind_eq_some_iff.mp h
      obtain ⟨qs, hread, rfl⟩ := exists_readPieces?_of_map_cons h
      have hu : c ≠ 'u' := by
        rintro rfl
        cases hescape
      simp only [List.cons_append]
      rw [readPieces?, hescape, Option.bind_eq_bind, Option.bind_some, ih hread, Option.map_some]
      exact fun _ _ _ _ _ _ hc => hu hc
    · exact hfour
  | case4 c cs hquote hfour hshort hbad =>
    rw [readPieces?, if_pos hbad] at h
    · cases h
    · exact hquote
    · exact hfour
    · exact hshort
  | case5 c cs hquote hfour hshort hplain ih =>
    have hslash : c ≠ '\\' := fun hc => hplain (.inl hc)
    rw [readPieces?, if_neg hplain] at h
    · obtain ⟨qs, hread, rfl⟩ := exists_readPieces?_of_map_cons h
      rw [List.cons_append, readPieces?, if_neg hplain, ih hread, Option.map_some]
      · exact hquote
      · exact fun _ _ _ _ _ _ => hslash
      · exact fun _ _ _ => hslash
    · exact hquote
    · exact hfour
    · exact hshort
  | case6 cs ih =>
    rw [readPieces?] at h
    obtain ⟨qs, hread, rfl⟩ := exists_readPieces?_of_map_cons h
    rw [List.cons_append, readPieces?, ih hread, Option.map_some]
  | case7 => cases h

/-- Nothing is read of a quoted text that breaks off before its closing quote. -/
theorem readPieces?_of_prefix {cs ds : List Symbol} {ps : List Piece}
    (h : readPieces? cs = some (ps, [])) (hpart : ds <+: cs) (hne : ds ≠ cs) :
    readPieces? ds = none := by
  obtain ⟨more, rfl⟩ := hpart
  refine Option.eq_none_iff_forall_ne_some.mpr fun (qs, rest) hread => hne ?_
  obtain ⟨-, hnil⟩ := Prod.mk.inj (Option.some.inj (h.symm.trans (readPieces?_append hread more)))
  rw [(List.append_eq_nil_iff.mp hnil.symm).2, List.append_nil]

/-- What is no number is properly written. -/
theorem Token.isProper_of_isNumber_eq_false {t : Token} (h : t.isNumber = false) : t.IsProper := by
  cases t with
  | number n => cases h
  | _ => trivial

/-- A token that is no number is read back, whatever comes after it. -/
theorem nextToken?_written_of_isNumber_eq_false {t : Token} (h : t.isNumber = false)
    (rest : List Symbol) : nextToken? (t.written.map .char ++ rest) = some (t, rest) :=
  nextToken?_written (t.isProper_of_isNumber_eq_false h) fun hnumber => by
    cases h.symm.trans hnumber

/-- A token that starts with a quote is none if it breaks off. -/
theorem nextToken?_of_prefix_quote {t : Token} (h : t.isNumber = false) {body cs : List Char}
    (hwritten : t.written = '"' :: body) (hpart : cs <+: t.written) (hne : cs ≠ t.written) :
    nextToken? (cs.map .char) = none := by
  rw [hwritten] at hpart hne
  rcases List.prefix_cons_iff.mp hpart with rfl | ⟨ds, rfl, hds⟩
  · rfl
  · have hwhole := nextToken?_written_of_isNumber_eq_false h []
    rw [hwritten, List.append_nil, List.map_cons, nextToken?] at hwhole
    obtain ⟨⟨ps, rest⟩, hread, heq⟩ := Option.map_eq_some_iff.mp hwhole
    obtain ⟨-, rfl⟩ := Prod.mk.inj heq
    rw [List.map_cons, nextToken?, readPieces?_of_prefix hread (hds.map _) ?_, Option.map_none]
    exact fun hds => hne (congrArg _ (List.map_injective_iff.mpr (fun _ _ => Symbol.char.inj) hds))

/-- A token that breaks off is none, unless it is a number. -/
theorem nextToken?_of_prefix {t : Token} (h : t.isNumber = false) {cs : List Char}
    (hpart : cs <+: t.written) (hne : cs ≠ t.written) : nextToken? (cs.map .char) = none := by
  have hsingle : ∀ {c : Char}, t.written = [c] → nextToken? (cs.map .char) = none := by
    intro c hc
    rw [hc] at hpart hne
    rcases List.prefix_cons_iff.mp hpart with rfl | ⟨ds, rfl, hds⟩
    · rfl
    · rw [List.prefix_nil.mp hds] at hne
      exact absurd rfl hne
  have hword : (∀ n < t.written.length, nextToken? ((t.written.take n).map .char) = none) →
      nextToken? (cs.map .char) = none := by
    intro hall
    have hlt : cs.length < t.written.length :=
      hpart.length_le.lt_of_ne fun hlength => hne (hpart.eq_of_length hlength)
    rw [List.prefix_iff_eq_take.mp hpart]
    exact hall cs.length hlt
  cases t with
  | number n => cases h
  | text s => exact nextToken?_of_prefix_quote h rfl hpart hne
  | garbled flaw =>
    cases flaw <;> exact nextToken?_of_prefix_quote h rfl hpart hne
  | null => exact hword (by decide)
  | bool b => cases b <;> exact hword (by decide)
  | _ => exact hsingle rfl

/-- Tokens start with the one that the text starts with, unless that starts with white space. -/
theorem exists_of_tokensWithin_cons {budget : Nat} {c : Char} {cs : List Char} {us : List Token}
    (hspace : isSpace c = false)
    (h : tokensWithin budget ((c :: cs).map .char) = some us) :
    ∃ left t rest vs, nextToken? ((c :: cs).map .char) = some (t, rest) ∧
      tokensWithin left rest = some vs ∧ us = t :: vs := by
  cases budget with
  | zero => cases h
  | succ left =>
    rw [List.map_cons, tokensWithin, isSpaceSymbol, hspace, if_neg Bool.false_ne_true] at h
    obtain ⟨⟨t, rest⟩, hnext, h⟩ := Option.bind_eq_some_iff.mp h
    obtain ⟨vs, hvs, rfl⟩ := Option.map_eq_some_iff.mp h
    exact ⟨left, t, rest, vs, hnext, hvs, rfl⟩

/-- **The tokens of a first part of a text without numbers are some of the tokens of the text, but
not all of them.** -/
theorem prefix_of_tokensWithin {ts : List Token} (h : ∀ t ∈ ts, t.isNumber = false)
    {cs : List Char} (hpart : cs <+: ts.flatMap Token.written)
    (hne : cs ≠ ts.flatMap Token.written) {budget : Nat} {us : List Token}
    (htokens : tokensWithin budget (cs.map .char) = some us) : us <+: ts ∧ us ≠ ts := by
  induction ts generalizing cs budget us with
  | nil => exact absurd (List.prefix_nil.mp hpart) hne
  | cons t ts ih =>
    obtain ⟨ht, hts⟩ := List.forall_mem_cons.mp h
    cases cs with
    | nil =>
      obtain rfl : [] = us := by simpa [tokensWithin] using htokens
      exact ⟨List.nil_prefix, (List.cons_ne_nil t ts).symm⟩
    | cons c cs =>
      obtain ⟨first, tail, hwritten, hspace, -⟩ :=
        exists_written_eq_cons (Token.isProper_of_isNumber_eq_false ht)
      rw [List.flatMap_cons] at hpart hne
      obtain rfl : c = first := by
        rw [hwritten] at hpart
        exact (List.cons_prefix_cons.mp hpart).1
      obtain ⟨left, v, rest, vs, hnext, hvs, rfl⟩ := exists_of_tokensWithin_cons hspace htokens
      -- The first token is there as a whole, or the text breaks off within it.
      by_cases hwhole : t.written <+: c :: cs
      · obtain ⟨ds, hds⟩ := hwhole
        rw [← hds] at hnext hpart hne
        rw [List.map_append, nextToken?_written_of_isNumber_eq_false ht] at hnext
        obtain ⟨rfl, rfl⟩ := Prod.mk.inj (Option.some.inj hnext)
        obtain ⟨hfirst, hother⟩ := ih hts ((List.prefix_append_right_inj _).mp hpart)
          (fun heq => hne (congrArg _ heq)) hvs
        exact ⟨List.cons_prefix_cons.mpr ⟨rfl, hfirst⟩, fun heq => hother (List.cons.inj heq).2⟩
      · have hshort := (List.prefix_or_prefix_of_prefix hpart
          (List.prefix_append t.written _)).resolve_right hwhole
        have hbroken := nextToken?_of_prefix ht hshort fun heq => hwhole (heq ▸ List.prefix_refl _)
        cases hnext.symm.trans hbroken

/-! ### Values -/

/-- Nothing may follow a value. -/
theorem ofTokens?_append_eq_none {us ts : List Token} {w : Json} (h : ofTokens? us = some w)
    (hts : ts ≠ []) : ofTokens? (us ++ ts) = none := by
  obtain ⟨t, ts, rfl⟩ := List.exists_cons_of_ne_nil hts
  rw [ofTokens?] at h
  split at h
  · next v hrun =>
    rw [ofTokens?, Position.run?_append, hrun]
    rfl
  · cases h

/-- **A first part of the text of a value without numbers is not read.** -/
theorem read?_of_prefix {v : Json} (h : ∀ t ∈ v.tokens, t.isNumber = false) {cs : List Char}
    (hpart : cs <+: v.written) (hne : cs ≠ v.written) : read? cs = none := by
  refine Option.eq_none_iff_forall_ne_some.mpr fun w hread => ?_
  rw [read?, ofSymbols?] at hread
  obtain ⟨us, htokens, hw⟩ := Option.bind_eq_some_iff.mp hread
  obtain ⟨⟨ts, hts⟩, hother⟩ := prefix_of_tokensWithin h hpart hne htokens
  have hnil : ts ≠ [] := by
    rintro rfl
    exact hother (by rw [← hts, List.append_nil])
  have hnone := ofTokens?_append_eq_none hw hnil
  rw [hts, ofTokens?_tokens] at hnone
  cases hnone

/-! ### Octets -/

/-- The octets that are read as a text are those of the text. -/
theorem fromUTF8?_eq_some_iff {content : ByteArray} {text : String} :
    String.fromUTF8? content = some text ↔ content = text.toUTF8 := by
  constructor
  · intro h
    rw [String.fromUTF8?] at h
    split at h
    · obtain rfl := Option.some.inj h
      rfl
    · cases h
  · rintro rfl
    exact fromUTF8?_toUTF8 text

/-- **A text that is read from the first octets of a text is a first part of it.** -/
theorem prefix_of_fromUTF8?_extract {text whole : String} {n : Nat} (hn : n < whole.toUTF8.size)
    (h : String.fromUTF8? (whole.toUTF8.extract 0 n) = some text) :
    text.toList <+: whole.toList ∧ text.toList ≠ whole.toList := by
  rw [fromUTF8?_eq_some_iff, String.toUTF8_eq_toByteArray, String.toUTF8_eq_toByteArray] at h
  rw [String.toUTF8_eq_toByteArray] at hn
  have hvalid : (String.Pos.Raw.mk n).IsValid whole :=
    String.Pos.Raw.isValid_iff_isValidUTF8_extract_zero.mpr ⟨hn.le, h ▸ text.isValidUTF8⟩
  obtain ⟨first, rest, rfl, hpos⟩ := String.Pos.Raw.isValid_iff_exists_append.mp hvalid
  have hsize : n = first.toByteArray.size := congrArg String.Pos.Raw.byteIdx hpos
  rw [String.toByteArray_append, ByteArray.extract_append_eq_left hsize] at h
  obtain rfl := String.toByteArray_inj.mp h
  rw [String.toList_append]
  refine ⟨List.prefix_append _ _, fun heq => hn.ne ?_⟩
  have hrest : rest = "" := String.toList_eq_nil_iff.mp (List.self_eq_append_right.mp heq)
  rw [hsize, hrest, String.append_empty]

end Household.Json
