import Household.Proofs.Json.Spelling
import Household.Proofs.Session.Slot

/-!
# The Session File Under Use

The session file is saved to, cleared and looked at, and someone else can put octets into it. Only
the last change counts: a token that was saved is loaded whatever its characters are, nothing is
loaded from a cleared file, and foreign octets hold a token exactly if they are the text of a JSON
value that spells a session. What cannot be carried out leaves the file as it was, but for a save
that runs out of room: it loses what was stored.

## Main results

* `tokenOf?_eq_some_iff`: which JSON values are sessions.
* `load_eq_some_iff`: when a token is loaded.
* `onFailure`: what a move that cannot be carried out does to the file.
* `step_of_isFree`: what one move does to a file with which everything may be done.
* `faithful_run`: what holds after any moves.
* `not_kept_on_failure`: a token is lost.
-/

namespace Household

/-! ### Sessions -/

/-- A field with a value is one member, and the others have other names. -/
theorem Json.perm_of_field?_eq_some {members : List (String × Json)} {name : String} {v : Json}
    (h : field? members name = some (some v)) :
    members.Perm ([(name, v)] ++ members.filter (·.1 ≠ name)) := by
  have hfound : members.filter (·.1 = name) = [(name, v)] := by
    have hmem : (name, v) ∈ members.filter (·.1 = name) := by
      simpa using ((field?_eq_some_iff.mp h).2 v).mp rfl
    obtain ⟨m, hm⟩ := List.length_eq_one_iff.mp
      ((field?_eq_some_iff.mp h).1.antisymm (List.length_pos_of_mem hmem))
    rw [hm] at hmem ⊢
    rw [List.mem_singleton.mp hmem]
  rw [← hfound]
  simpa using (List.filter_append_perm (·.1 = name) members).symm

namespace SessionSlot

variable {s s' : SessionSlot} {token : String}

/-- The value spells the session with a token. -/
def IsSession (token : String) (v : Json) : Prop :=
  Json.Spells [⟨"token", (· = .text token)⟩] v

/-- The octets are the text of a JSON value that spells the session with a token. -/
def Holds (content : ByteArray) (token : String) : Prop :=
  ∃ text v, content = String.toUTF8 text ∧ Json.read? text.toList = some v ∧ IsSession token v

/-- A value with a token spells the session with it. -/
theorem isSession_of_tokenOf? {v : Json} (h : tokenOf? v = some token) : IsSession token v := by
  have htext : ∀ {value : Json}, Json.text? value = some token → value = .text token := by
    intro value hvalue
    cases value with
    | text t => exact congrArg Json.text (Option.some.inj hvalue)
    | _ => cases hvalue
  cases v with
  | object members =>
    cases hfield : Json.field? members "token" with
    | none => simp [tokenOf?, Json.record?, hfield] at h
    | some value? =>
      cases value? with
      | none => simp [tokenOf?, Json.record?, hfield] at h
      | some value =>
        obtain rfl := htext (by simpa [tokenOf?, Json.record?, hfield] using h)
        exact .object (Json.perm_of_field?_eq_some hfield) (.cons ⟨rfl, rfl⟩ .nil)
          (by simp)
  | array items =>
    cases items with
    | nil => simp [tokenOf?, Json.record?] at h
    | cons value rest =>
      cases rest with
      | nil =>
        obtain rfl := htext (by simpa [tokenOf?, Json.record?] using h)
        exact .array (.cons rfl .nil)
      | cons _ _ => simp [tokenOf?, Json.record?] at h
  | _ => simp [tokenOf?, Json.record?] at h

/-- **The JSON values with a token are those that spell the session with it**: an object with the
token as a member, whatever its members of other names are, or a list of nothing but the token. -/
theorem tokenOf?_eq_some_iff {v : Json} : tokenOf? v = some token ↔ IsSession token v := by
  refine ⟨isSession_of_tokenOf?, fun h => ?_⟩
  obtain ⟨values, hrecord, hvalues⟩ := h.exists_record?_eq (by simp)
  obtain ⟨value, rest, rfl, hrest, rfl⟩ := List.forall₂_cons_right_iff.mp hvalues
  obtain rfl := List.forall₂_nil_right_iff.mp hrest
  rw [tokenOf?]
  exact Option.bind_eq_some_iff.mpr ⟨_, hrecord, rfl⟩

/-- A token is loaded exactly if there is a text that is read as a session with it. -/
theorem load_eq_some_iff :
    s.load = some token ↔
      ∃ text v, s.text? = some text ∧ Json.read? text.toList = some v ∧ IsSession token v := by
  simp only [load, Option.bind_eq_bind, Option.bind_eq_some_iff, tokenOf?_eq_some_iff]
  constructor
  · rintro ⟨text, htext, v, hv, hsession⟩
    exact ⟨text, v, htext, hv, hsession⟩
  · rintro ⟨text, v, htext, hv, hsession⟩
    exact ⟨text, htext, v, hv, hsession⟩

/-! ### Moves -/

/-- What is done with the session file. -/
inductive Move
  | save (token : String)
  | clear
  | load
  | validToken (now : Instant)
  /-- Someone else puts octets into the file. -/
  | overwrite (content : ByteArray)

/-- The move only looks at the file. -/
def Move.IsQuery : Move → Prop
  | .load => True
  | .validToken _ => True
  | _ => False

/-- What is answered to a move. -/
inductive Answer
  | done
  /-- It could not be carried out. -/
  | failed
  | token (token? : Option String)

/-- What is answered to an attempt. -/
def Answer.ofDone (done : Bool) : Answer :=
  if done then .done else .failed

/-- One move. -/
def step (s : SessionSlot) : Move → SessionSlot × Answer
  | .save token => ((s.save token).1, .ofDone (s.save token).2)
  | .clear => (s.clear?.getD s, .ofDone s.clear?.isSome)
  | .load => (s, .token s.load)
  | .validToken now => (s, .token (s.validToken now))
  | .overwrite content => ((s.write content).1, .ofDone (s.write content).2)

/-- Moves one after the other. -/
def run (s : SessionSlot) (ms : List Move) : SessionSlot :=
  ms.foldl (fun s m => (s.step m).1) s

/-- An attempt fails if it is not done. -/
theorem Answer.ofDone_eq_failed_iff {done : Bool} : ofDone done = .failed ↔ done = false := by
  cases done <;> simp [ofDone]

/-- What a move that cannot be carried out does to the file. -/
structure OnFailure (s : SessionSlot) : Prop where
  /-- A clear that fails leaves it as it was. -/
  clear : (s.step .clear).2 = .failed → (s.step .clear).1 = s
  /-- So does a save that fails because the file cannot be opened. -/
  unopened : ∀ token, s.opens = false → (s.step (.save token)).2 = .failed →
    (s.step (.save token)).1 = s
  /-- A save that fails later than that leaves a first part of what was to be stored and not all of
  it. Nothing is loaded from this. -/
  opened : ∀ token, s.opens = true → (s.step (.save token)).2 = .failed →
    (s.step (.save token)).1.load = none ∧ ∃ n < (octetsOf token).size,
      (s.step (.save token)).1.content? = some ((octetsOf token).extract 0 n)

/-- **What a move that cannot be carried out does to the file**, whatever may be done with it. -/
theorem onFailure (s : SessionSlot) : OnFailure s where
  clear h := by
    cases hclear : s.clear? with
    | none => rw [step, hclear, Option.getD_none]
    | some cleared =>
      rw [step, hclear] at h
      cases h
  unopened token hopens _ := by
    rw [step, save, write_of_opens_eq_false hopens]
  opened token hopens h := by
    have hbreaks := breaksOff_of_failed hopens (Answer.ofDone_eq_failed_iff.mp h)
    exact ⟨hbreaks.load, hbreaks.content⟩

/-! ### Free files -/

/-- Everything may be done with the file, whatever is to be put into it, or there is none yet and
there may be one. -/
def IsFree : SessionSlot → Prop
  | .file _ => True
  | .guarded _ readable writable removable =>
    readable = true ∧ writable = true ∧ removable = true
  | _ => False

/-- Octets are put into a free file, and are all that it holds. -/
theorem IsFree.exists_write_eq (h : s.IsFree) (content : ByteArray) :
    ∃ s', s.write content = (s', true) ∧ s'.IsFree ∧ s'.text? = String.fromUTF8? content := by
  cases s with
  | file _ => exact ⟨_, rfl, trivial, rfl⟩
  | guarded _ readable writable removable =>
    obtain ⟨rfl, rfl, rfl⟩ := h
    exact ⟨_, rfl, ⟨rfl, rfl, rfl⟩, rfl⟩
  | noDirectory => exact h.elim
  | directory => exact h.elim
  | cramped slot room => exact h.elim

/-- A free file is removed. -/
theorem IsFree.clear?_eq_some (h : s.IsFree) : s.clear? = some (.file none) := by
  cases s with
  | file _ => rfl
  | guarded _ readable writable removable =>
    obtain ⟨rfl, rfl, rfl⟩ := h
    rfl
  | noDirectory => exact h.elim
  | directory => exact h.elim
  | cramped slot room => exact h.elim

/-- What is loaded after a move, by what was loaded before it. -/
def Move.Leaves (before : Option String) : Move → Option String → Prop
  | .save token, after => after = some token
  | .clear, after => after = none
  | .overwrite content, after => ∀ token, after = some token ↔ Holds content token
  | _, after => after = before

/-- **Every move on a free file is carried out**, and the file remains free. -/
theorem step_of_isFree (h : s.IsFree) (m : Move) :
    (s.step m).2 ≠ .failed ∧ (s.step m).1.IsFree ∧ m.Leaves s.load (s.step m).1.load := by
  have hdone : Answer.ofDone true ≠ .failed := by simp [Answer.ofDone]
  cases m with
  | save token =>
    obtain ⟨s', hwrite, hfree, htext⟩ := h.exists_write_eq (octetsOf token)
    rw [step, save, hwrite]
    exact ⟨hdone, hfree, load_of_text? (htext.trans (Json.fromUTF8?_toUTF8 _))⟩
  | clear =>
    rw [step, h.clear?_eq_some]
    exact ⟨hdone, trivial, rfl⟩
  | load => exact ⟨by simp [step], h, rfl⟩
  | validToken now => exact ⟨by simp [step], h, rfl⟩
  | overwrite content =>
    obtain ⟨s', hwrite, hfree, htext⟩ := h.exists_write_eq content
    rw [step, hwrite]
    refine ⟨hdone, hfree, fun token => ?_⟩
    rw [load_eq_some_iff, htext]
    simp only [Json.fromUTF8?_eq_some_iff, Holds]

/-- Every token can be saved in a free file. -/
theorem IsFree.step_save (h : s.IsFree) (token : String) : (s.step (.save token)).2 = .done := by
  obtain ⟨s', hwrite, -, -⟩ := h.exists_write_eq (octetsOf token)
  rw [step, save, hwrite]
  rfl

/-- A free file can be cleared. -/
theorem IsFree.step_clear (h : s.IsFree) : (s.step .clear).2 = .done := by
  rw [step, h.clear?_eq_some]
  rfl

/-- A free file remains free. -/
theorem IsFree.run (h : s.IsFree) (ms : List Move) : (s.run ms).IsFree := by
  induction ms generalizing s with
  | nil => exact h
  | cons m ms ih => exact ih (step_of_isFree h m).2.1

/-- Moves are made one list after the other. -/
theorem run_append (s : SessionSlot) (ms ms' : List Move) :
    s.run (ms ++ ms') = (s.run ms).run ms' :=
  List.foldl_append

/-- Moves that only look at the file leave it as it is. -/
theorem run_of_forall_isQuery {ms : List Move} (h : ∀ m ∈ ms, m.IsQuery) : s.run ms = s := by
  induction ms with
  | nil => rfl
  | cons m ms ih =>
    obtain ⟨hm, hms⟩ := List.forall_mem_cons.mp h
    have hstep : (s.step m).1 = s := by
      cases m with
      | load => rfl
      | validToken now => rfl
      | save _ => exact hm.elim
      | clear => exact hm.elim
      | overwrite _ => exact hm.elim
    rw [run, List.foldl_cons, hstep]
    exact ih hms

/-- What is loaded is what the last change left. -/
theorem IsFree.leaves_run (h : s.IsFree) {before after : List Move} (m : Move)
    (hafter : ∀ m ∈ after, m.IsQuery) :
    m.Leaves (s.run before).load (s.run (before ++ m :: after)).load := by
  have hrun : s.run (before ++ m :: after) = ((s.run before).step m).1 := by
    rw [run_append]
    exact run_of_forall_isQuery hafter
  rw [hrun]
  exact (step_of_isFree (h.run before) m).2.2

/-! ### What holds after any moves -/

/-- The session file has kept what it should after these moves. -/
structure Faithful (s : SessionSlot) (ms : List Move) : Prop where
  /-- A token is loaded that was saved last. -/
  saved : ∀ before token after, ms = before ++ .save token :: after → (∀ m ∈ after, m.IsQuery) →
    (s.run ms).load = some token
  /-- Nothing is loaded from a file that was cleared last. -/
  cleared : ∀ before after, ms = before ++ .clear :: after → (∀ m ∈ after, m.IsQuery) →
    (s.run ms).load = none
  /-- Of a file that someone else has written to last the token is loaded that the octets hold, if
  they hold one. -/
  overwritten : ∀ before content after, ms = before ++ .overwrite content :: after →
    (∀ m ∈ after, m.IsQuery) → ∀ token, (s.run ms).load = some token ↔ Holds content token
  /-- Looking at the file does not change it. -/
  untouched : (∀ m ∈ ms, m.IsQuery) → s.run ms = s
  /-- The valid token is the one that is loaded, if its expiry can be read and is to come. -/
  valid_iff : ∀ now token, (s.run ms).validToken now = some token ↔
    (s.run ms).load = some token ∧ ∃ expiry, Token.expiry? token = some expiry ∧ now < expiry
  /-- Once there is no valid token there is none at any later time, until the file changes. -/
  invalid : ∀ now later after, now ≤ later → (∀ m ∈ after, m.IsQuery) →
    (s.run ms).validToken now = none → (s.run (ms ++ after)).validToken later = none
  /-- Every token can be saved. -/
  saves : ∀ token, ((s.run ms).step (.save token)).2 = .done
  /-- The file can be cleared, whether it is there or not. -/
  clears : ((s.run ms).step .clear).2 = .done

/-- **The session file keeps one token faithfully.** If everything may be done with the file, this
holds after any moves:

* The token that was saved last is loaded, whatever its characters are, and none if the file was
  cleared last. If someone else wrote to it last, a token is loaded exactly if the octets are the
  text of a JSON value that spells the session with this token.
* The valid token is the one that is loaded, as long as its readable expiry is to come, and once
  there is none there is none at any later time, until the file changes.
* Every token can be saved, and the file cleared, whether it is there or not.

Whatever may be done with the file, a clear that fails leaves it as it was, and so does a save that
cannot open it. A save that fails after that leaves a first part of what was to be stored, from
which nothing is loaded. -/
theorem faithful_run (h : s.IsFree) (ms : List Move) :
    Faithful s ms ∧ ∀ s', OnFailure s' := by
  have hfaithful : Faithful s ms :=
    { saved := by
        rintro before token after rfl hafter
        exact h.leaves_run (.save token) hafter
      cleared := by
        rintro before after rfl hafter
        exact h.leaves_run .clear hafter
      overwritten := by
        rintro before content after rfl hafter
        exact h.leaves_run (.overwrite content) hafter
      untouched := run_of_forall_isQuery
      valid_iff := fun now token => by rw [validToken_eq_some_iff, Token.isValid_iff]
      invalid := by
        intro now later after hle hafter hnone
        rw [run_append, run_of_forall_isQuery hafter]
        refine Option.eq_none_iff_forall_ne_some.mpr fun token hlater => ?_
        cases hnone.symm.trans (validToken_of_le hle hlater)
      saves := (h.run ms).step_save
      clears := (h.run ms).step_clear }
  exact ⟨hfaithful, onFailure⟩

/-- A token is saved and cleared, someone else writes a list, and then a token is saved with a
quotation mark, a reverse solidus and a line feed. -/
def newMoves : List Move :=
  [.save "one", .clear, .overwrite "[\"two\"]".toUTF8, .save "\"\\\n", .load]

/-- All characters of the last token are loaded again. -/
theorem faithful_newMoves :
    (SessionSlot.file none).IsFree ∧ Faithful (.file none) newMoves ∧
      ((SessionSlot.file none).run newMoves).load = some "\"\\\n" := by
  have hfree : (SessionSlot.file none).IsFree := trivial
  have hfaithful := (faithful_run hfree newMoves).1
  have hload := hfaithful.saved [.save "one", .clear, .overwrite "[\"two\"]".toUTF8] _ [.load] rfl
    (by simp [Move.IsQuery])
  exact ⟨hfree, hfaithful, hload⟩

/-- A file with the token "one" where there is no room for a longer one. -/
def fullSlot : SessionSlot :=
  .cramped (.file (some (octetsOf "one"))) 15

/-- The text of an object with a token and a member that no reader wants, of which the name is one
half of a surrogate pair. -/
def garbledName : String :=
  "\x7b\"token\":\"one\",\"\\ud800\":1\x7d"

/-- **A token is lost when a longer one is saved for which there is no room.** Nor is a token loaded
from an object with a name that stands for no characters, though nobody wants the member. -/
theorem not_kept_on_failure :
    ((fullSlot.step (.save "three")).2 = .failed ∧ fullSlot.load = some "one" ∧
        (fullSlot.step (.save "three")).1.load = none) ∧
      ((SessionSlot.file none).run [.overwrite garbledName.toUTF8]).load = none := by
  have hfailed : (fullSlot.step (.save "three")).2 = .failed := by rfl
  have htext : fullSlot.text? = String.fromUTF8? (octetsOf "one") := rfl
  have hbefore : fullSlot.load = some "one" :=
    load_of_text? (htext.trans (Json.fromUTF8?_toUTF8 _))
  refine ⟨⟨hfailed, hbefore, ((onFailure fullSlot).opened "three" rfl hfailed).1⟩, ?_⟩
  have hgarbled : ((SessionSlot.file none).run [.overwrite garbledName.toUTF8]).text? =
      some garbledName := Json.fromUTF8?_toUTF8 _
  have hread : (Json.read? garbledName.toList).bind tokenOf? = none := by decide +kernel
  rw [load, hgarbled, Option.bind_eq_bind, Option.bind_some]
  exact hread

end SessionSlot

end Household
