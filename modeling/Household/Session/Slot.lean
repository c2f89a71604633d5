import Household.Session.Token

/-!
# The Session File

Between runs the current token is kept in a file, as the only field of a JSON record. Whatever is
not readable as such a record counts as no session. Only saving and clearing can fail, on a path
that cannot hold a file, at a file that may not be written or removed, or for want of room. Who
saves opens the file, which empties it, and then puts octet after octet into it: a save for which
there is no room fails in the middle of that, and what was stored before is lost.

## Main results

* `tokenOf?_contentOf`: the token of a record is the one it was made with.
* `load_clear`: after clearing there is no session.
* `write_of_opens_eq_false`: a file that cannot be opened stays as it was.
-/

namespace Household

/-- What is found at the path of the session file. -/
inductive SessionSlot
  /-- A file with its octets, or nothing yet. -/
  | file (content : Option ByteArray)
  /-- A file with which not everything may be done. -/
  | guarded (content : ByteArray) (readable writable removable : Bool)
  /-- The directory of the path does not exist. -/
  | noDirectory
  /-- The path is a directory. -/
  | directory
  /-- One of these where a file of no more than so many octets finds room. -/
  | cramped (slot : SessionSlot) (room : Nat)

namespace SessionSlot

/-- The content of a session file with a token. -/
def contentOf (token : String) : Json :=
  .object [("token", .text token)]

/-- The token in the content of a session file. -/
def tokenOf? (v : Json) : Option String := do
  match ← Json.record? ["token"] v with
  | [some token] => Json.text? token
  | _ => none

/-- The octets that are stored with a token. -/
def octetsOf (token : String) : ByteArray :=
  (String.ofList (contentOf token).written).toUTF8

/-- The octets in the file, whether they may be read or not. -/
def content? : SessionSlot → Option ByteArray
  | .file content => content
  | .guarded content _ _ _ => some content
  | .cramped slot _ => slot.content?
  | _ => none

/-- The text of the file, if there is one that may be read and it is well-formed UTF-8. -/
def text? : SessionSlot → Option String
  | .file (some content) => String.fromUTF8? content
  | .guarded content readable _ _ => if readable then String.fromUTF8? content else none
  | .cramped slot _ => slot.text?
  | _ => none

/-- The stored token. -/
def load (s : SessionSlot) : Option String := do
  tokenOf? (← Json.read? (← s.text?).toList)

/-- The stored token, as long as it is valid. -/
def validToken (s : SessionSlot) (now : Instant) : Option String :=
  s.load.filter (Token.isValid · now)

/-- Whether the file can be opened for writing, which empties it. -/
def opens : SessionSlot → Bool
  | .file _ => true
  | .guarded _ _ writable _ => writable
  | .cramped slot _ => slot.opens
  | _ => false

/-- Puts octets into the file in place of those that it holds, and says whether it has taken them
all. Without room for all of them it keeps the first ones. -/
def write (content : ByteArray) : SessionSlot → SessionSlot × Bool
  | .file _ => (.file (some content), true)
  | .guarded old readable writable removable =>
    if writable then (.guarded content readable writable removable, true)
    else (.guarded old readable writable removable, false)
  | .cramped slot room =>
    let (slot, done) := slot.write (content.extract 0 room)
    (.cramped slot room, done && content.size ≤ room)
  | s => (s, false)

/-- Stores a token, and says whether it is stored. -/
def save (s : SessionSlot) (token : String) : SessionSlot × Bool :=
  s.write (octetsOf token)

/-- What an attempt has led to; `none` if it has failed. -/
def succeeded? : SessionSlot × Bool → Option SessionSlot
  | (s, true) => some s
  | (_, false) => none

/-- The file with these octets; `none` if it does not take them. -/
def write? (content : ByteArray) (s : SessionSlot) : Option SessionSlot :=
  succeeded? (s.write content)

/-- The file with a token; `none` if it cannot be stored. -/
def save? (s : SessionSlot) (token : String) : Option SessionSlot :=
  succeeded? (s.save token)

/-- Removes the file; `none` if the path is a directory or the file may not be removed. Where there
is no file nothing needs to be removed. -/
def clear? : SessionSlot → Option SessionSlot
  | .file _ => some (.file none)
  | .guarded _ _ _ removable => if removable then some (.file none) else none
  | .noDirectory => some .noDirectory
  | .directory => none
  | .cramped slot room => slot.clear?.map (.cramped · room)

/-- The token of a record is the one it was made with. -/
theorem tokenOf?_contentOf (token : String) : tokenOf? (contentOf token) = some token := by
  simp [tokenOf?, contentOf, Json.record?, Json.field?, Json.text?]

/-- After clearing there is no session. -/
theorem load_clear {s t : SessionSlot} (h : s.clear? = some t) : t.load = none := by
  induction s generalizing t with
  | file content =>
    obtain rfl := Option.some.inj h
    rfl
  | guarded content readable writable removable =>
    cases removable with
    | false => cases h
    | true =>
      obtain rfl := Option.some.inj h
      rfl
  | noDirectory =>
    obtain rfl := Option.some.inj h
    rfl
  | directory => cases h
  | cramped slot room ih =>
    obtain ⟨cleared, hcleared, rfl⟩ := Option.map_eq_some_iff.mp h
    have hload : cleared.load = none := ih hcleared
    exact hload

/-- A file that cannot be opened stays as it was. -/
theorem write_of_opens_eq_false {s : SessionSlot} (h : s.opens = false) (content : ByteArray) :
    s.write content = (s, false) := by
  induction s generalizing content with
  | file _ => cases h
  | guarded old readable writable removable =>
    obtain rfl : writable = false := h
    rfl
  | noDirectory => rfl
  | directory => rfl
  | cramped slot room ih =>
    rw [write, ih h]
    rfl

end SessionSlot

end Household
