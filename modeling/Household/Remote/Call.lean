import Household.Json.Reader
import Household.Json.Printer
import Household.Remote.Error
import Household.Remote.Status
import Household.Remote.Url

/-!
# Calls

A call is one request to the scheduling server together with what came of it: no connection, or an
answer with a status and a body. An answer is of use if the server knew who was asking, the status
is a success and the body is what was asked for; otherwise one of the reasons below says what went
wrong.

## Main results

* `Answer.read_eq_notAuthenticated_iff`: a call ends as not authenticated exactly when it could be
  sent and the server answered with a status that refuses the token.
* `Answer.read_eq_ok_iff`: a call brings a value exactly when it could be sent and the server
  answered with success and a body that holds this value.
-/

namespace Household.Remote

open Text

/-! ### Addresses -/

/-- Where the server is: the URL under which all else lies, without slashes at its end. -/
structure Address where
  base : String
deriving DecidableEq, Repr

/-- The text without the slashes at its end. -/
def withoutFinalSlashes (cs : List Char) : List Char :=
  (cs.reverse.dropWhile (· = '/')).reverse

/-- The address written in a base URL. Slashes at its end do not count. -/
def Address.ofBase (base : String) : Address :=
  ⟨String.ofList (withoutFinalSlashes base.toList)⟩

/-! ### Calls -/

/-- How a call is meant. -/
inductive Method
  /-- Reads. -/
  | get
  /-- Writes. -/
  | post
deriving DecidableEq, Repr

/-- The method in a request line. -/
def Method.name : Method → String
  | .get => "GET"
  | .post => "POST"

/-- A request to the server: the path below the root of its address, the token that says who is
asking, and a body. -/
structure Call where
  method : Method
  path : String
  token : Option String
  body : Option Json

/-- The header that carries the token. -/
def Call.authorization? (c : Call) : Option String :=
  c.token.map ("Bearer " ++ ·)

/-- The text of the body. -/
def Call.bodyText? (c : Call) : Option String :=
  c.body.map fun v => String.ofList v.written

/-- Whether a token can stand in a header: there are no control characters other than tabs in a
header. -/
def isHeaderText (token : String) : Bool :=
  token.toList.all fun c => (' ' ≤ c && c ≠ '\x7f') || c = '\t'

/-! ### Answers -/

/-- What came of a call. -/
inductive Answer
  /-- There was no connection. -/
  | unreachable
  /-- An answer of the server. -/
  | reply (status : Nat) (body : String)
deriving DecidableEq, Repr

/-- What goes wrong with a call, other than that the server refuses the token. -/
inductive CallFault
  /-- The token or the address is such that there is nothing to send. -/
  | unsendable
  /-- The URL is none that a request can be sent to. -/
  | unsendableTo (url : Url)
  /-- There was no connection. -/
  | unreachable (url : Url)
  /-- The server answered with a status that is no success. -/
  | status (url : Url) (code : Nat)
  /-- The body is not what was asked for. -/
  | unreadable (url : Url)
deriving DecidableEq, Repr

/-- The text of a fault. -/
def CallFault.message : CallFault → String
  | .unsendable => "builder error"
  | .unsendableTo url => "builder error for url (" ++ String.ofList url.text ++ ")"
  | .unreachable url => "error sending request for url (" ++ String.ofList url.text ++ ")"
  | .status url code => String.ofList url.path ++ " returned " ++ statusText code
  | .unreadable url => "error decoding response body for url (" ++ String.ofList url.text ++ ")"

/-- A fault as a failure of the server. -/
def CallFault.toError (e : CallFault) : SourceError :=
  .transport e.message

/-- The URL of something on the server, if the address is the start of one that a request can be
sent to. -/
def Address.url (a : Address) (path : String) : Except CallFault Url :=
  match Url.read? (a.base ++ path).toList with
  | some url => if url.isSendable then .ok url else .error (.unsendableTo url)
  | none => .error .unsendable

/-- What an answer to a call at a URL brings, with the reader of the value that was asked for. -/
def Answer.readAt {α : Type} (url : Url) (of? : Json → Option α) : Answer → Except SourceError α
  | .unreachable => .error (CallFault.unreachable url).toError
  | .reply status body =>
    if refuses status then .error .notAuthenticated
    else if isSuccess status then
      match (Json.read? body.toList).bind of? with
      | some value => .ok value
      | none => .error (CallFault.unreadable url).toError
    else .error (CallFault.status url status).toError

/-- What an answer to a call at a path brings. Without a URL the call is not sent, and there is no
answer to look at. -/
def Answer.read {α : Type} (a : Address) (path : String) (of? : Json → Option α)
    (answer : Answer) : Except SourceError α :=
  match a.url path with
  | .ok url => answer.readAt url of?
  | .error fault => .error fault.toError

/-- A call ends as not authenticated exactly when the server refuses the token. -/
theorem Answer.readAt_eq_notAuthenticated_iff {α : Type} (url : Url) (of? : Json → Option α)
    (answer : Answer) :
    answer.readAt url of? = .error .notAuthenticated ↔
      ∃ status body, answer = .reply status body ∧ refuses status = true := by
  cases answer with
  | unreachable => simp [readAt, CallFault.toError]
  | reply status body =>
    simp only [readAt, reply.injEq]
    constructor
    · intro h
      refine ⟨status, body, ⟨rfl, rfl⟩, ?_⟩
      split at h
      · assumption
      · split at h
        · split at h <;> simp [CallFault.toError] at h
        · simp [CallFault.toError] at h
    · rintro ⟨_, _, ⟨rfl, rfl⟩, hr⟩
      simp [hr]

/-- A call brings a value exactly when the server answered with success and a body that holds it. -/
theorem Answer.readAt_eq_ok_iff {α : Type} (url : Url) (of? : Json → Option α) (answer : Answer)
    (value : α) :
    answer.readAt url of? = .ok value ↔
      ∃ status body, answer = .reply status body ∧ isSuccess status = true ∧
        (Json.read? body.toList).bind of? = some value := by
  cases answer with
  | unreachable => simp [readAt]
  | reply status body =>
    simp only [readAt, reply.injEq]
    constructor
    · intro h
      refine ⟨status, body, ⟨rfl, rfl⟩, ?_⟩
      split at h
      · simp at h
      · split at h
        · rename_i hs
          split at h
          · rename_i v hv
            exact ⟨hs, hv.trans (congrArg some (Except.ok.inj h))⟩
          · simp at h
        · simp at h
    · rintro ⟨_, _, ⟨rfl, rfl⟩, hs, hv⟩
      have hr : refuses status = false := by
        cases hr : refuses status with
        | false => rfl
        | true => rw [refuses_not_isSuccess hr] at hs; contradiction
      simp [hr, hs, hv]

/-- A call ends as not authenticated exactly when it has a URL and the server refuses the token. -/
theorem Answer.read_eq_notAuthenticated_iff {α : Type} (a : Address) (path : String)
    (of? : Json → Option α) (answer : Answer) :
    answer.read a path of? = .error .notAuthenticated ↔
      (a.url path).isOk ∧ ∃ status body, answer = .reply status body ∧ refuses status = true := by
  unfold read
  cases a.url path with
  | error fault => simp [CallFault.toError, Except.isOk, Except.toBool]
  | ok url => simp [readAt_eq_notAuthenticated_iff, Except.isOk, Except.toBool]

/-- A call brings a value exactly when it has a URL and the server answered with success and a body
that holds the value. -/
theorem Answer.read_eq_ok_iff {α : Type} (a : Address) (path : String) (of? : Json → Option α)
    (answer : Answer) (value : α) :
    answer.read a path of? = .ok value ↔
      (a.url path).isOk ∧ ∃ status body, answer = .reply status body ∧
        isSuccess status = true ∧ (Json.read? body.toList).bind of? = some value := by
  unfold read
  cases a.url path with
  | error fault => simp [Except.isOk, Except.toBool]
  | ok url => simp [readAt_eq_ok_iff, Except.isOk, Except.toBool]

end Household.Remote
