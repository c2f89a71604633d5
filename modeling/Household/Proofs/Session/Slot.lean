import Household.Proofs.Instant.Order
import Household.Proofs.Json.Breaking
import Household.Session.Slot

/-!
# What the Session File Gives Back

A token that could be saved is the one that is loaded next, whatever its characters are, unless the
file may not be read. A token that could not be saved leaves the file as it was, or what is left of
it is a first part of a record, from which nothing is loaded. As time goes on a stored token can
cease to be valid, and no other way.

## Main results

* `load_save?`: what is loaded after a token was saved.
* `exists_save?_eq_some`: a usable file takes every token and gives it back.
* `save_cases`: what an attempt to save a token comes to.
* `validToken_of_le`: a token that is valid later is valid now.
-/

namespace Household

/-- A token that is valid later is valid now. -/
theorem Token.isValid_of_le {token : String} {now later : Instant} (hle : now ≤ later)
    (h : Token.isValid token later = true) : Token.isValid token now = true := by
  obtain ⟨expiry, hexpiry, hlt⟩ := (Token.isValid_iff token later).mp h
  exact (Token.isValid_iff token now).mpr ⟨expiry, hexpiry, hle.trans_lt hlt⟩

namespace SessionSlot

variable {s s' : SessionSlot} {token : String}

/-! ### Attempts -/

/-- What an attempt that has succeeded has led to. -/
theorem succeeded?_eq_some_iff {attempt : SessionSlot × Bool} :
    succeeded? attempt = some s ↔ attempt = (s, true) := by
  obtain ⟨t, done⟩ := attempt
  cases done <;> simp [succeeded?]

/-- A file that cannot be opened takes nothing. -/
theorem opens_of_write_eq {content : ByteArray} (h : s.write content = (s', true)) :
    s.opens = true := by
  by_contra hopens
  rw [write_of_opens_eq_false (by simpa using hopens)] at h
  cases h

/-- **A file that can be opened holds the octets, or the first ones if it does not take them
all.** -/
theorem content?_write (h : s.opens = true) (content : ByteArray) :
    ((s.write content).2 = true ∧ (s.write content).1.content? = some content) ∨
      ((s.write content).2 = false ∧ ∃ n < content.size,
        (s.write content).1.content? = some (content.extract 0 n)) := by
  induction s generalizing content with
  | file old => exact .inl ⟨rfl, rfl⟩
  | guarded old readable writable removable =>
    obtain rfl : writable = true := h
    exact .inl ⟨rfl, rfl⟩
  | noDirectory => cases h
  | directory => cases h
  | cramped slot room ih =>
    rw [write]
    rcases ih h (content.extract 0 room) with ⟨hdone, hcontent⟩ | ⟨hfail, n, hn, hcontent⟩
    · by_cases hroom : content.size ≤ room
      · have hall : content.extract 0 room = content := ByteArray.ext (by simp [hroom])
        rw [hall] at hdone hcontent ⊢
        exact .inl ⟨by simp [hdone, hroom], hcontent⟩
      · exact .inr ⟨by simp [hroom], room, Nat.lt_of_not_le hroom, hcontent⟩
    · -- The first octets of a first part are a first part.
      rw [ByteArray.size_extract] at hn
      rw [ByteArray.extract_extract, Nat.zero_add, Nat.zero_add,
        Nat.min_eq_left (by omega)] at hcontent
      exact .inr ⟨by simp [hfail], n, by omega, hcontent⟩

/-! ### Saving and loading -/

/-- A file is read as the octets that it holds, unless it may not be read. -/
theorem text?_eq_or {content : ByteArray} (h : s.content? = some content) :
    s.text? = String.fromUTF8? content ∨ s.text? = none := by
  induction s with
  | file old =>
    obtain rfl : old = some content := h
    exact .inl rfl
  | guarded old readable writable removable =>
    obtain rfl : old = content := Option.some.inj h
    cases readable with
    | true => exact .inl rfl
    | false => exact .inr rfl
  | noDirectory => cases h
  | directory => cases h
  | cramped slot room ih => exact ih h

/-- The content with a token is read back. -/
theorem read?_contentOf (token : String) :
    Json.read? (contentOf token).written = some (contentOf token) :=
  Json.read?_written (by simp [contentOf])

/-- The text of the content with a token holds this token. -/
theorem load_of_text? (h : s.text? = some (String.ofList (contentOf token).written)) :
    s.load = some token := by
  rw [load, h, Option.bind_eq_bind, Option.bind_some, String.toList_ofList, read?_contentOf,
    Option.bind_eq_bind, Option.bind_some, tokenOf?_contentOf]

/-- Nothing is loaded without a text that is read. -/
theorem load_eq_none (h : ∀ text, s.text? = some text → Json.read? text.toList = none) :
    s.load = none := by
  cases htext : s.text? with
  | none => rw [load, htext, Option.bind_eq_bind, Option.bind_none]
  | some text =>
    rw [load, htext, Option.bind_eq_bind, Option.bind_some, h text htext, Option.bind_eq_bind,
      Option.bind_none]

/-- **Nothing is loaded from a first part of what is stored with a token.** -/
theorem load_of_extract {n : Nat} (hn : n < (octetsOf token).size)
    (h : s.content? = some ((octetsOf token).extract 0 n)) : s.load = none := by
  refine load_eq_none fun text htext => ?_
  rcases text?_eq_or h with heq | hnone
  · obtain ⟨hpart, hne⟩ := Json.prefix_of_fromUTF8?_extract hn (heq.symm.trans htext)
    rw [String.toList_ofList] at hpart hne
    exact Json.read?_of_prefix (by simp [contentOf, Json.tokens, Json.memberTokens,
      Json.Token.isNumber]) hpart hne
  · cases hnone.symm.trans htext

/-- A token that was saved is loaded, unless the file may not be read. -/
theorem load_save? (h : s.save? token = some s') : s'.load = some token ∨ s'.load = none := by
  have hsave : s.save token = (s', true) := succeeded?_eq_some_iff.mp h
  rcases content?_write (opens_of_write_eq hsave) (octetsOf token) with ⟨-, hcontent⟩ | ⟨hfail, -⟩
  · rw [← save, hsave] at hcontent
    rcases text?_eq_or hcontent with htext | hnone
    · exact .inl (load_of_text? (htext.trans (Json.fromUTF8?_toUTF8 _)))
    · refine .inr (load_eq_none fun text htext => ?_)
      cases hnone.symm.trans htext
  · rw [← save, hsave] at hfail
    cases hfail

/-- A save that has opened the file and then failed: what is left is a first part of what was to be
stored, and nothing is loaded from it. -/
structure BreaksOff (s : SessionSlot) (token : String) : Prop where
  opens : s.opens = true
  failed : (s.save token).2 = false
  load : (s.save token).1.load = none
  content : ∃ n < (octetsOf token).size,
    (s.save token).1.content? = some ((octetsOf token).extract 0 n)

/-- **A save that fails after it has opened the file breaks off.** -/
theorem breaksOff_of_failed (hopens : s.opens = true) (h : (s.save token).2 = false) :
    s.BreaksOff token := by
  rcases content?_write hopens (octetsOf token) with ⟨hdone, -⟩ | ⟨-, n, hn, hcontent⟩
  · cases h.symm.trans hdone
  · exact ⟨hopens, h, load_of_extract hn hcontent, n, hn, hcontent⟩

/-- **What an attempt to save a token comes to**: it is saved, the file stays as it was, or the
attempt breaks off. -/
theorem save_cases (s : SessionSlot) (token : String) :
    s.save? token = some (s.save token).1 ∨ (s.save token).1 = s ∨ s.BreaksOff token := by
  cases hdone : (s.save token).2 with
  | true => exact .inl (succeeded?_eq_some_iff.mpr (Prod.ext rfl hdone))
  | false =>
    cases hopens : s.opens with
    | true => exact .inr (.inr (breaksOff_of_failed hopens hdone))
    | false => exact .inr (.inl (by rw [save, write_of_opens_eq_false hopens]))

/-- The file may be read and written, or there is none yet and there may be one. -/
def IsUsable : SessionSlot → Prop
  | .file _ => True
  | .guarded _ readable writable _ => readable = true ∧ writable = true
  | _ => False

/-- **A usable file takes every token and gives it back**, and remains usable. -/
theorem IsUsable.exists_save?_eq_some (h : s.IsUsable) (token : String) :
    ∃ s', s.save? token = some s' ∧ s'.load = some token ∧ s'.IsUsable := by
  cases s with
  | file content => exact ⟨_, rfl, load_of_text? (Json.fromUTF8?_toUTF8 _), trivial⟩
  | guarded content readable writable removable =>
    obtain ⟨rfl, rfl⟩ := h
    have htext : (guarded (octetsOf token) true true removable).text? =
        some (String.ofList (contentOf token).written) := by
      rw [text?, if_pos rfl]
      exact Json.fromUTF8?_toUTF8 _
    exact ⟨_, rfl, load_of_text? htext, rfl, rfl⟩
  | noDirectory => exact h.elim
  | directory => exact h.elim
  | cramped slot room => exact h.elim

/-- A usable file remains usable when it is removed. -/
theorem IsUsable.clear? (h : s.IsUsable) (hclear : s.clear? = some s') : s'.IsUsable := by
  cases s with
  | file content =>
    obtain rfl := Option.some.inj hclear
    trivial
  | guarded content readable writable removable =>
    cases removable with
    | false => cases hclear
    | true =>
      obtain rfl := Option.some.inj hclear
      trivial
  | noDirectory => exact h.elim
  | directory => exact h.elim
  | cramped slot room => exact h.elim

/-! ### Valid tokens -/

/-- A valid token is one that is loaded and has not expired. -/
theorem validToken_eq_some_iff {now : Instant} :
    s.validToken now = some token ↔ s.load = some token ∧ Token.isValid token now = true := by
  rw [validToken, Option.filter_eq_some_iff]

/-- A token that is valid later is valid now. -/
theorem validToken_of_le {now later : Instant} (hle : now ≤ later)
    (h : s.validToken later = some token) : s.validToken now = some token := by
  rw [validToken_eq_some_iff] at h ⊢
  exact ⟨h.1, Token.isValid_of_le hle h.2⟩

/-- Without a token there is no valid one. -/
theorem validToken_of_load_eq_none {now : Instant} (h : s.load = none) :
    s.validToken now = none := by
  rw [validToken, h, Option.filter_none]

end SessionSlot

end Household
