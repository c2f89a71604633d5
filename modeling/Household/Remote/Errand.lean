import Household.Remote.Call
import Household.Remote.Credentials
import Household.Schedule.Wire
import Household.Session.Slot

/-!
# Errands

An errand is what the program wants from the scheduling server: one of the three lists, or a new
task to be created. It needs a token. The token in the session file will do as long as it is valid;
without one the errand logs in, if there are credentials. If the server refuses the token, the
errand logs in again and asks once more, but not a third time.

Errands of one client share the session file, and one at a time logs in. An errand that had to wait
for another one uses the token which that one has brought, unless it is the token that the server
has just refused.

An errand goes from stage to stage by turns. In a turn it looks at the clock, or takes in the answer
to the call that it is waiting for; other errands can have their turns in between.

## Main results

* `Stage.rank_advance`: every turn brings an errand closer to its end, unless it has to wait for
  another one that is logging in.
* `Stage.follow_ended`: an errand that has nobody to wait for ends.
-/

namespace Household.Remote

/-- What is wanted from the server. -/
inductive Errand
  | devices
  | tasks
  | events
  | createTask (task : NewTask)
deriving DecidableEq

namespace Errand

/-- What the server gives for an errand. -/
abbrev Received : Errand → Type
  | .devices => List Device
  | .tasks => List Task
  | .events => List Event
  | .createTask _ => Task

/-- Reads what the server gives. -/
def ofJson? : (e : Errand) → Json → Option e.Received
  | .devices => Json.list? Device.ofJson?
  | .tasks => Json.list? Task.ofJson?
  | .events => Json.list? Event.ofJson?
  | .createTask _ => Task.ofJson?

/-- Where the errand is done. -/
def path : Errand → String
  | .devices => "/api/devices"
  | .tasks => "/api/tasks"
  | .events => "/api/events"
  | .createTask _ => "/api/tasks"

/-- The call of an errand with a token. -/
def call (token : String) : Errand → Call
  | .createTask task => ⟨.post, path (.createTask task), some token, some task.toJson⟩
  | e => ⟨.get, e.path, some token, none⟩

end Errand

/-! ### Logging in -/

/-- The path for logging in. -/
def loginPath : String := "/api/auth/login"

/-- The call that logs in. -/
def loginCall (c : Credentials) : Call :=
  ⟨.post, loginPath, none, some c.toJson⟩

/-- A client of the server: its address and the credentials for logging in, if there are any. -/
structure Client where
  address : Address
  credentials : Option Credentials

/-- The token in the answer to logging in. It is written as in the session file. -/
def Client.loginToken (client : Client) (answer : Answer) : Except SourceError String :=
  answer.read client.address loginPath SessionSlot.tokenOf?

/-- What the errands of a client share: the session file, and whether one of them is logging in. -/
structure Shared where
  slot : SessionSlot
  loggingIn : Bool

/-! ### Stages -/

/-- How far an errand has got. -/
inductive Stage (e : Errand)
  /-- It is about to look for a stored token. -/
  | starting
  /-- It wants to log in and waits until nobody else does; `rejected` is the token that the server
  has refused, if it has refused one. -/
  | queuing (rejected : Option String)
  /-- It is logging in. -/
  | loggingIn (credentials : Credentials) (rejected : Option String)
  /-- It has sent its call, for the first time or once more. -/
  | asking (token : String) (again : Bool)
  | ended (result : Except SourceError e.Received)

/-- What an errand learns in a turn: the time, and the answer to its call if it waits for one. -/
structure Turn where
  now : Instant
  answer : Answer

namespace Stage

variable {e : Errand}

/-- The call whose answer is awaited. -/
def call? : Stage e → Option Call
  | .loggingIn credentials _ => some (loginCall credentials)
  | .asking token _ => some (e.call token)
  | _ => none

/-- The outcome of an errand that has ended. -/
def result? : Stage e → Option (Except SourceError e.Received)
  | .ended result => some result
  | _ => none

/-- Sends the call with a token, if a header can hold it. -/
def ask (token : String) (again : Bool) : Stage e :=
  if isHeaderText token then .asking token again
  else .ended (.error CallFault.unsendable.toError)

/-- Begins to log in, if there are credentials. -/
def logIn (client : Client) (rejected : Option String) (shared : Shared) : Stage e × Shared :=
  match client.credentials with
  | some credentials => (.loggingIn credentials rejected, { shared with loggingIn := true })
  | none => (.ended (.error .notAuthenticated), shared)

/-- One turn of an errand. Whether the session file can be written or removed does not matter: the
errand goes on, with the file as the attempt has left it. -/
def advance (client : Client) (turn : Turn) (shared : Shared) : Stage e → Stage e × Shared
  | .starting =>
    match shared.slot.validToken turn.now with
    | some token => (ask token false, shared)
    | none => (.queuing none, shared)
  | .queuing rejected =>
    if shared.loggingIn then (.queuing rejected, shared)
    else
      match shared.slot.validToken turn.now with
      | some token =>
        if rejected = some token then
          logIn client rejected { shared with slot := shared.slot.clear?.getD shared.slot }
        else (ask token rejected.isSome, shared)
      | none => logIn client rejected shared
  | .loggingIn _ rejected =>
    match client.loginToken turn.answer with
    | .ok token => (ask token rejected.isSome, ⟨(shared.slot.save token).1, false⟩)
    | .error reason => (.ended (.error reason), { shared with loggingIn := false })
  | .asking token again =>
    match turn.answer.read client.address e.path e.ofJson? with
    | .ok received => (.ended (.ok received), shared)
    | .error reason =>
      if reason = .notAuthenticated ∧ again = false ∧ client.credentials.isSome then
        (.queuing (some token), shared)
      else (.ended (.error reason), shared)
  | .ended result => (.ended result, shared)

/-- An upper bound for the turns that are left to an errand which has nobody to wait for. -/
def rank : Stage e → Nat
  | .starting => 7
  | .queuing none => 6
  | .loggingIn _ none => 5
  | .asking _ false => 4
  | .queuing (some _) => 3
  | .loggingIn _ (some _) => 2
  | .asking _ true => 1
  | .ended _ => 0

/-- Whether an errand waits for another one. -/
def waits (shared : Shared) : Stage e → Bool
  | .queuing _ => shared.loggingIn
  | _ => false

/-- Whether an errand is the one that is logging in. -/
def isLoggingIn : Stage e → Bool
  | .loggingIn _ _ => true
  | _ => false

/-! ### One errand alone -/

/-- Gives an errand up to `n` turns, one after the other. The outside world is a function that makes
a turn from the call which the errand waits for. -/
def follow {σ : Type} (client : Client) (outside : Option Call → σ → Turn × σ) :
    Nat → Stage e → Shared → σ → Stage e × Shared × σ
  | 0, stage, shared, world => (stage, shared, world)
  | n + 1, stage, shared, world =>
    let (turn, world) := outside stage.call? world
    let (stage, shared) := stage.advance client turn shared
    follow client outside n stage shared world

/-! ### Small facts -/

/-- Sending the call leaves four turns at most, and one if it is sent again. -/
theorem rank_ask (token : String) (again : Bool) :
    (ask token again : Stage e).rank ≤ if again then 1 else 4 := by
  unfold ask
  split <;> cases again <;> simp [rank]

/-- Logging in leaves five turns at most, and two if a token has been refused. -/
theorem rank_logIn (client : Client) (rejected : Option String) (shared : Shared) :
    (logIn client rejected shared : Stage e × Shared).1.rank ≤
      if rejected.isSome then 2 else 5 := by
  unfold logIn
  cases client.credentials <;> cases rejected <;> simp [rank]

/-- Every turn brings an errand closer to its end, unless it has to wait. -/
theorem rank_advance (client : Client) (turn : Turn) (shared : Shared) (stage : Stage e)
    (h : stage.waits shared = false) :
    (stage.advance client turn shared).1.rank ≤ stage.rank - 1 := by
  cases stage with
  | starting =>
    simp only [advance]
    split
    · exact Nat.le_trans (rank_ask _ _) (by simp [rank])
    · simp [rank]
  | queuing rejected =>
    have hl : shared.loggingIn = false := h
    simp only [advance, hl, Bool.false_eq_true, if_false]
    split
    · split
      · exact Nat.le_trans (rank_logIn _ _ _) (by cases rejected <;> simp [rank])
      · exact Nat.le_trans (rank_ask _ _) (by cases rejected <;> simp [rank])
    · exact Nat.le_trans (rank_logIn _ _ _) (by cases rejected <;> simp [rank])
  | loggingIn credentials rejected =>
    simp only [advance]
    split
    · exact Nat.le_trans (rank_ask _ _) (by cases rejected <;> simp [rank])
    · simp [rank]
  | asking token again =>
    simp only [advance]
    split
    · simp [rank]
    · split
      · rename_i hc
        simp [rank, hc.2.1]
      · simp [rank]
  | ended result => simp [advance, rank]

/-- Sending the call is not logging in. -/
theorem isLoggingIn_ask (token : String) (again : Bool) :
    (ask token again : Stage e).isLoggingIn = false := by
  unfold ask
  split <;> rfl

/-- Who begins to log in is the one that is logging in. -/
theorem loggingIn_logIn (client : Client) (rejected : Option String) {shared : Shared}
    (h : shared.loggingIn = false) :
    (logIn client rejected shared : Stage e × Shared).2.loggingIn =
      (logIn client rejected shared : Stage e × Shared).1.isLoggingIn := by
  unfold logIn
  split
  · rfl
  · exact h

/-- An errand that is alone stays alone: only it can be logging in. -/
theorem loggingIn_advance (client : Client) (turn : Turn) {shared : Shared} {stage : Stage e}
    (h : shared.loggingIn = stage.isLoggingIn) :
    (stage.advance client turn shared).2.loggingIn =
      (stage.advance client turn shared).1.isLoggingIn := by
  cases stage with
  | starting =>
    simp only [advance]
    split
    · rw [isLoggingIn_ask]; exact h
    · exact h
  | queuing rejected =>
    have hl : shared.loggingIn = false := h
    simp only [advance, hl, Bool.false_eq_true, if_false]
    split
    · split
      · exact loggingIn_logIn _ _ rfl
      · rw [isLoggingIn_ask]; exact hl
    · exact loggingIn_logIn _ _ hl
  | loggingIn credentials rejected =>
    simp only [advance]
    split
    · rw [isLoggingIn_ask]
    · rfl
  | asking token again =>
    simp only [advance]
    split
    · exact h
    · split <;> exact h
  | ended result => exact h

/-- No turn is left to an errand exactly when it has ended. -/
theorem rank_eq_zero_iff {stage : Stage e} : stage.rank = 0 ↔ ∃ result, stage = .ended result := by
  match stage with
  | .starting => simp [rank]
  | .queuing none => simp [rank]
  | .queuing (some _) => simp [rank]
  | .loggingIn _ none => simp [rank]
  | .loggingIn _ (some _) => simp [rank]
  | .asking _ false => simp [rank]
  | .asking _ true => simp [rank]
  | .ended _ => simp [rank]

/-- An errand that has nobody to wait for ends. -/
theorem follow_ended {σ : Type} (client : Client) (outside : Option Call → σ → Turn × σ) (n : Nat)
    (stage : Stage e) (shared : Shared) (world : σ)
    (h : shared.loggingIn = stage.isLoggingIn) (hn : stage.rank ≤ n) :
    ∃ result, (follow client outside n stage shared world).1 = .ended result := by
  induction n generalizing stage shared world with
  | zero => exact rank_eq_zero_iff.1 (Nat.le_zero.1 hn)
  | succ n ih =>
    have hw : stage.waits shared = false := by
      cases stage with
      | queuing => exact h
      | _ => rfl
    refine ih _ _ _ (loggingIn_advance client _ h) ?_
    exact Nat.le_trans (rank_advance client _ shared stage hw) (by omega)

/-- An errand that has nobody to wait for has an outcome. -/
theorem isSome_result?_follow {σ : Type} (client : Client)
    (outside : Option Call → σ → Turn × σ) {n : Nat} {stage : Stage e} {shared : Shared}
    (h : shared.loggingIn = stage.isLoggingIn) (hn : stage.rank ≤ n) (world : σ) :
    (follow client outside n stage shared world).1.result?.isSome = true := by
  obtain ⟨result, hr⟩ := follow_ended client outside n stage shared world h hn
  simp [hr, result?]

end Stage

end Household.Remote
