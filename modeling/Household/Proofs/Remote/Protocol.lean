import Household.Proofs.Remote.Turns
import Household.Proofs.Session.Slot

/-!
# The Protocol of an Errand

An errand that is alone makes four calls at most: it logs in if it has to, sends its call, and if
the server refuses the token logs in and sends its call once more. `Standing` says for each stage
what has come before it; a turn leads from one standing to another, since a stored token that has
expired does not become valid again.

## Main results

* `turn_start_cases`, `turn_loggingIn_cases`, `turn_asking_cases`: what a turn can come to, by the
  stage.
* `Standing.turn`: a turn leads from one standing to another.
* `Standing.slot_turn`: all that a turn can do to the session file.
* `protocol_after`: the calls of an errand, and what becomes of the session file.
* `exists_after_eq_run`: this is about what an errand does from its start to its end.
-/

namespace Household.Remote

variable {e : Errand} {client : Client} {slot s s' : SessionSlot} {now later : Instant}
  {token : String} {xs : List (Call × Answer)}

/-! ### Progress -/

/-- How far an errand has come: the calls that were answered, with their answers and the first one
first, its stage, and what it shares. -/
structure Progress (e : Errand) where
  exchanges : List (Call × Answer)
  stage : Stage e
  shared : Shared

namespace Progress

/-- An errand that is about to start and is alone. -/
def start (slot : SessionSlot) : Progress e :=
  ⟨[], .starting, ⟨slot, false⟩⟩

/-- A turn. -/
def turn (client : Client) (p : Progress e) (t : Turn) : Progress e :=
  let (stage, shared) := p.stage.advance client t p.shared
  ⟨p.exchanges ++ (p.stage.call?.map (·, t.answer)).toList, stage, shared⟩

/-- Without a call nothing is answered. -/
theorem turn_of_call?_eq_none {p : Progress e} (h : p.stage.call? = none) (t : Turn) :
    p.turn client t =
      ⟨p.exchanges, (p.stage.advance client t p.shared).1,
        (p.stage.advance client t p.shared).2⟩ := by
  rw [turn, h, Option.map_none, Option.toList_none, List.append_nil]

/-- A call is answered. -/
theorem turn_of_call?_eq_some {p : Progress e} {call : Call} (h : p.stage.call? = some call)
    (t : Turn) :
    p.turn client t =
      ⟨p.exchanges ++ [(call, t.answer)], (p.stage.advance client t p.shared).1,
        (p.stage.advance client t p.shared).2⟩ := by
  rw [turn, h, Option.map_some, Option.toList_some]

/-- An errand after some turns, the first one first. -/
def after (client : Client) (slot : SessionSlot) (ts : List Turn) : Progress e :=
  ts.foldl (turn client) (start slot)

/-- The calls that were made, the first one first. -/
def calls (p : Progress e) : List Call :=
  p.exchanges.map Prod.fst ++ p.stage.call?.toList

/-- A last turn comes after the others. -/
theorem after_append_singleton (client : Client) (slot : SessionSlot) (ts : List Turn) (t : Turn) :
    (after client slot (ts ++ [t]) : Progress e) = (after client slot ts).turn client t := by
  rw [after, after, List.foldl_append, List.foldl_cons, List.foldl_nil]

end Progress

/-- What an errand comes to is where its turns lead. -/
theorem Stage.exists_foldl_turn_eq_follow {σ : Type} (client : Client)
    (outside : Option Call → σ → Turn × σ) (n : Nat) (p : Progress e) (world : σ) :
    ∃ ts : List Turn, ts.length = n ∧
      (ts.foldl (Progress.turn client) p).stage =
        (follow client outside n p.stage p.shared world).1 ∧
      (ts.foldl (Progress.turn client) p).shared =
        (follow client outside n p.stage p.shared world).2.1 := by
  induction n generalizing p world with
  | zero => exact ⟨[], rfl, rfl, rfl⟩
  | succ n ih =>
    obtain ⟨ts, hlength, hstage, hshared⟩ :=
      ih (p.turn client (outside p.stage.call? world).1) (outside p.stage.call? world).2
    exact ⟨_ :: ts, by rw [List.length_cons, hlength], hstage, hshared⟩

/-! ### What comes before each stage -/

/-- The server refuses the token. -/
def Refused (answer : Answer) : Prop :=
  ∃ status body, answer = .reply status body ∧ refuses status = true

/-- The answer to logging in brings a token: the call could be sent, and the server has answered
with success and a body that holds the token. -/
def Brings (client : Client) (answer : Answer) (token : String) : Prop :=
  (client.address.url loginPath).isOk ∧ ∃ status body, answer = .reply status body ∧
    isSuccess status = true ∧ (Json.read? body.toList).bind SessionSlot.tokenOf? = some token

/-- The calls log in if need be, ask, and log in and ask once more, as far as it gets. -/
def IsProtocol (calls : List Call) : Prop :=
  calls.map Call.isLogin <+: [true, false, true, false] ∨
    calls.map Call.isLogin <+: [false, true, false]

/-- What comes before an errand asks for the first time: either its token is the stored one, or the
stored one is of no use, and it has logged in. -/
inductive First (client : Client) (slot : SessionSlot) (now : Instant) (token : String) :
    List (Call × Answer) → SessionSlot → Prop
  | stored (hload : slot.load = some token) : First client slot now token [] slot
  | brought {c : Credentials} {answer : Answer} (hc : client.credentials = some c)
      (hnone : slot.validToken now = none) (htoken : client.loginToken answer = .ok token) :
      First client slot now token [(loginCall c, answer)] (slot.save token).1

/-- What has come before each stage of an errand that is alone, by the latest look at the clock. -/
inductive Standing (client : Client) (slot : SessionSlot) (now : Instant) : Progress e → Prop
  | starting : Standing client slot now (.start slot)
  | queuing (hnone : slot.validToken now = none) :
      Standing client slot now ⟨[], .queuing none, ⟨slot, false⟩⟩
  | loggingIn {c : Credentials} (hc : client.credentials = some c)
      (hnone : slot.validToken now = none) :
      Standing client slot now ⟨[], .loggingIn c none, ⟨slot, true⟩⟩
  | asking {xs : List (Call × Answer)} {s : SessionSlot} {token : String}
      (hfirst : First client slot now token xs s)
      (hvalid : xs = [] → slot.validToken now = some token) :
      Standing client slot now ⟨xs, .asking token false, ⟨s, false⟩⟩
  | requeuing {xs : List (Call × Answer)} {s : SessionSlot} {token : String} {answer : Answer}
      {c : Credentials} (hfirst : First client slot now token xs s) (hrefused : Refused answer)
      (hc : client.credentials = some c) :
      Standing client slot now
        ⟨xs ++ [(e.call token, answer)], .queuing (some token), ⟨s, false⟩⟩
  | relogging {xs : List (Call × Answer)} {s s' : SessionSlot} {token : String} {answer : Answer}
      {c : Credentials} (hfirst : First client slot now token xs s) (hrefused : Refused answer)
      (hc : client.credentials = some c) :
      Standing client slot now
        ⟨xs ++ [(e.call token, answer)], .loggingIn c (some token), ⟨s', true⟩⟩
  | reasking {xs : List (Call × Answer)} {s s' : SessionSlot} {token token' : String}
      {answer answer' : Answer} {c : Credentials} (hfirst : First client slot now token xs s)
      (hrefused : Refused answer) (hc : client.credentials = some c)
      (htoken : client.loginToken answer' = .ok token') :
      Standing client slot now
        ⟨xs ++ [(e.call token, answer), (loginCall c, answer')], .asking token' true, ⟨s', false⟩⟩
  | ended {xs : List (Call × Answer)} {s : SessionSlot} {result : Except SourceError e.Received}
      (hprotocol : IsProtocol (xs.map Prod.fst))
      (hbare : client.credentials = none →
        (∀ call ∈ xs.map Prod.fst, call.isLogin = false) ∧ s = slot) :
      Standing client slot now ⟨xs, .ended result, ⟨s, false⟩⟩

/-! ### Small facts -/

/-- A stored token that is of no use does not come to be of use. -/
theorem validToken_eq_none_of_le (hle : now ≤ later) (h : slot.validToken now = none) :
    slot.validToken later = none := by
  refine Option.eq_none_iff_forall_ne_some.mpr fun token hvalid => ?_
  cases h.symm.trans (SessionSlot.validToken_of_le hle hvalid)

/-- What came before is what came before, as time goes on. -/
theorem First.of_le (h : First client slot now token xs s) (hle : now ≤ later) :
    First client slot later token xs s := by
  cases h with
  | stored hload => exact .stored hload
  | brought hc hnone htoken => exact .brought hc (validToken_eq_none_of_le hle hnone) htoken

/-- From then on no stored token is of use but the one with which the errand asks. -/
theorem First.eq_of_validToken (h : First client slot now token xs s) {other : String}
    (hvalid : s.validToken now = some other) : other = token := by
  obtain ⟨hload, -⟩ := SessionSlot.validToken_eq_some_iff.mp hvalid
  cases h with
  | stored hstored => exact Option.some.inj (hload.symm.trans hstored)
  | brought hc hnone htoken =>
    rcases slot.save_cases token with hsaved | hsame | hbroken
    · rcases SessionSlot.load_save? hsaved with hsome | hnothing
      · exact Option.some.inj (hload.symm.trans hsome)
      · cases hload.symm.trans hnothing
    · rw [hsame] at hvalid
      cases hnone.symm.trans hvalid
    · cases hload.symm.trans hbroken.load

/-- Before an errand asks for the first time it has logged in once or not at all. -/
theorem First.map_isLogin (h : First client slot now token xs s) :
    xs.map (Call.isLogin ∘ Prod.fst) = [] ∨ xs.map (Call.isLogin ∘ Prod.fst) = [true] := by
  cases h with
  | stored _ => exact .inl rfl
  | brought _ _ _ => exact .inr rfl

/-- Without credentials an errand asks with the stored token. -/
theorem First.of_credentials_eq_none (h : First client slot now token xs s)
    (hbare : client.credentials = none) : xs = [] ∧ s = slot := by
  cases h with
  | stored _ => exact ⟨rfl, rfl⟩
  | brought hc _ _ => cases hbare.symm.trans hc

/-- The calls that come after it has asked for the first time, by their kinds. -/
theorem First.isProtocol (h : First client slot now token xs s) (calls : List Call)
    (hcalls : calls.map Call.isLogin <+: [false, true, false]) :
    IsProtocol (xs.map Prod.fst ++ calls) := by
  rw [IsProtocol, List.map_append, List.map_map]
  rcases h.map_isLogin with hnil | hlogin
  · rw [hnil, List.nil_append]
    exact .inr hcalls
  · rw [hlogin]
    exact .inl ((List.prefix_append_right_inj [true]).mpr hcalls)

/-! ### What a turn can come to -/

/-- Logging in succeeds with a token that the answer brings. -/
theorem loginToken_eq_ok_iff {answer : Answer} :
    client.loginToken answer = .ok token ↔ Brings client answer token :=
  Answer.read_eq_ok_iff _ _ _ _ _

/-- A call for which the server refuses the token was answered with 401 or 403. -/
theorem refused_of_read {address : Address} {path : String} {α : Type} {of? : Json → Option α}
    {answer : Answer} (h : answer.read address path of? = .error .notAuthenticated) :
    Refused answer :=
  ((Answer.read_eq_notAuthenticated_iff _ _ _ _).mp h).2

namespace Progress

variable {c : Credentials} {rejected : Option String} {shared : Shared} {t : Turn}

/-- An errand that starts asks with the stored token, or queues for logging in. -/
theorem turn_start_cases (client : Client) (slot : SessionSlot) (t : Turn) :
    (slot.validToken t.now = none ∧
        (start slot : Progress e).turn client t = ⟨[], .queuing none, ⟨slot, false⟩⟩) ∨
      ∃ token, slot.validToken t.now = some token ∧
        (start slot : Progress e).turn client t = ⟨[], .ask token false, ⟨slot, false⟩⟩ := by
  rw [turn_of_call?_eq_none rfl, start, Stage.advance]
  dsimp only
  cases hvalid : slot.validToken t.now with
  | none => exact .inl ⟨rfl, rfl⟩
  | some token => exact .inr ⟨token, rfl, rfl⟩

/-- Without credentials an errand that queues, and finds no token, ends. -/
theorem turn_queuing_of_bare (hc : client.credentials = none)
    (hnone : s.validToken t.now = none) :
    (⟨xs, .queuing rejected, ⟨s, false⟩⟩ : Progress e).turn client t =
      ⟨xs, .ended (.error .notAuthenticated), ⟨s, false⟩⟩ := by
  rw [turn_of_call?_eq_none rfl, Stage.advance]
  dsimp only
  rw [if_neg Bool.false_ne_true, hnone]
  dsimp only
  rw [Stage.logIn, hc]

/-- With credentials an errand that queues, and finds no token, begins to log in. -/
theorem turn_queuing_of_none (hc : client.credentials = some c)
    (hnone : s.validToken t.now = none) :
    (⟨xs, .queuing rejected, ⟨s, false⟩⟩ : Progress e).turn client t =
      ⟨xs, .loggingIn c rejected, ⟨s, true⟩⟩ := by
  rw [turn_of_call?_eq_none rfl, Stage.advance]
  dsimp only
  rw [if_neg Bool.false_ne_true, hnone]
  dsimp only
  rw [Stage.logIn, hc]

/-- An errand that queues, and finds the token that was refused, removes it and begins to log in. -/
theorem turn_queuing_of_rejected (hc : client.credentials = some c)
    (hvalid : s.validToken t.now = some token) :
    (⟨xs, .queuing (some token), ⟨s, false⟩⟩ : Progress e).turn client t =
      ⟨xs, .loggingIn c (some token), ⟨s.clear?.getD s, true⟩⟩ := by
  rw [turn_of_call?_eq_none rfl, Stage.advance]
  dsimp only
  rw [if_neg Bool.false_ne_true, hvalid]
  dsimp only
  rw [if_pos rfl, Stage.logIn, hc]

/-- An errand that logs in asks with the token which it is given, or ends. -/
theorem turn_loggingIn_cases (client : Client) (xs : List (Call × Answer)) (c : Credentials)
    (rejected : Option String) (s : SessionSlot) (t : Turn) :
    (∃ token, client.loginToken t.answer = .ok token ∧
        (⟨xs, .loggingIn c rejected, ⟨s, true⟩⟩ : Progress e).turn client t =
          ⟨xs ++ [(loginCall c, t.answer)], .ask token rejected.isSome,
            ⟨(s.save token).1, false⟩⟩) ∨
      ∃ reason, (⟨xs, .loggingIn c rejected, ⟨s, true⟩⟩ : Progress e).turn client t =
        ⟨xs ++ [(loginCall c, t.answer)], .ended (.error reason), ⟨s, false⟩⟩ := by
  rw [turn_of_call?_eq_some rfl, Stage.advance]
  dsimp only
  cases client.loginToken t.answer with
  | ok token => exact .inl ⟨token, rfl, rfl⟩
  | error reason => exact .inr ⟨reason, rfl⟩

/-- An errand that has asked ends, or queues for logging in if it has asked for the first time, was
refused and has credentials. -/
theorem turn_asking_cases (client : Client) (xs : List (Call × Answer)) (token : String)
    (again : Bool) (shared : Shared) (t : Turn) :
    (∃ result, (⟨xs, .asking token again, shared⟩ : Progress e).turn client t =
        ⟨xs ++ [(e.call token, t.answer)], .ended result, shared⟩) ∨
      again = false ∧ Refused t.answer ∧ (∃ c, client.credentials = some c) ∧
        (⟨xs, .asking token again, shared⟩ : Progress e).turn client t =
          ⟨xs ++ [(e.call token, t.answer)], .queuing (some token), shared⟩ := by
  rw [turn_of_call?_eq_some rfl, Stage.advance]
  dsimp only
  cases hread : t.answer.read client.address e.path e.ofJson? with
  | ok received => exact .inl ⟨.ok received, rfl⟩
  | error reason =>
    dsimp only
    split
    · next hagain =>
      obtain ⟨rfl, hfirst, hsome⟩ := hagain
      exact .inr ⟨hfirst, refused_of_read hread, Option.isSome_iff_exists.mp hsome, rfl⟩
    · exact .inl ⟨.error reason, rfl⟩

end Progress

/-! ### A turn -/

/-- An errand whose token no header can hold ends. -/
theorem Standing.of_ask {xs : List (Call × Answer)} {shared : Shared} {again : Bool}
    (hasking : Standing client slot now ⟨xs, (.asking token again : Stage e), shared⟩)
    (hended : ∀ result, Standing client slot now ⟨xs, (.ended result : Stage e), shared⟩) :
    Standing client slot now ⟨xs, (.ask token again : Stage e), shared⟩ := by
  rw [Stage.ask]
  split
  · exact hasking
  · exact hended _

/-- An errand with credentials has ended after any calls of the protocol. -/
theorem Standing.ended_of_credentials {c : Credentials} (hc : client.credentials = some c)
    {calls : List Call} (h : IsProtocol calls) (hxs : xs.map Prod.fst = calls) (s : SessionSlot)
    (result : Except SourceError e.Received) :
    Standing client slot now ⟨xs, .ended result, ⟨s, false⟩⟩ :=
  .ended (hxs ▸ h) fun hbare => by cases hbare.symm.trans hc

/-- The turn of an errand that starts. -/
theorem Standing.turn_start (client : Client) (slot : SessionSlot) (t : Turn) :
    Standing client slot t.now ((Progress.start slot : Progress e).turn client t) := by
  rcases Progress.turn_start_cases (e := e) client slot t with
    ⟨hnone, hturn⟩ | ⟨token, hvalid, hturn⟩
  · rw [hturn]
    exact .queuing hnone
  · rw [hturn]
    have hload := (SessionSlot.validToken_eq_some_iff.mp hvalid).1
    exact .of_ask (.asking (.stored hload) fun _ => hvalid)
      fun _ => .ended (.inr List.nil_prefix) fun _ => ⟨by simp, rfl⟩

/-- The turn of an errand that queues for its first login. -/
theorem Standing.turn_queuing {t : Turn} (hnone : slot.validToken t.now = none) :
    Standing client slot t.now
      ((⟨[], .queuing none, ⟨slot, false⟩⟩ : Progress e).turn client t) := by
  cases hc : client.credentials with
  | none =>
    rw [Progress.turn_queuing_of_bare hc hnone]
    exact .ended (.inr List.nil_prefix) fun _ => ⟨by simp, rfl⟩
  | some c =>
    rw [Progress.turn_queuing_of_none hc hnone]
    exact .loggingIn hc hnone

/-- The turn that ends the first login. -/
theorem Standing.turn_loggingIn {c : Credentials} {t : Turn} (hc : client.credentials = some c)
    (hnone : slot.validToken t.now = none) :
    Standing client slot t.now
      ((⟨[], .loggingIn c none, ⟨slot, true⟩⟩ : Progress e).turn client t) := by
  have hended : ∀ s result, Standing client slot t.now
      (⟨[(loginCall c, t.answer)], .ended result, ⟨s, false⟩⟩ : Progress e) :=
    ended_of_credentials hc (.inl (by simp)) rfl
  rcases Progress.turn_loggingIn_cases (e := e) client [] c none slot t with
    ⟨token, htoken, hturn⟩ | ⟨reason, hturn⟩
  · rw [hturn]
    have hbrought := First.brought hc hnone htoken
    exact .of_ask (.asking hbrought fun hxs => absurd hxs (List.cons_ne_nil _ _)) (hended _)
  · rw [hturn]
    exact hended _ _

/-- The turn in which an errand takes in what it has asked for at first. -/
theorem Standing.turn_asking {t : Turn} (hfirst : First client slot t.now token xs s) :
    Standing client slot t.now
      ((⟨xs, .asking token false, ⟨s, false⟩⟩ : Progress e).turn client t) := by
  rcases Progress.turn_asking_cases (e := e) client xs token false ⟨s, false⟩ t with
    ⟨result, hturn⟩ | ⟨-, hrefused, ⟨c, hc⟩, hturn⟩
  · rw [hturn]
    refine .ended (List.map_append ▸ hfirst.isProtocol _ (by simp)) fun hbare => ?_
    obtain ⟨rfl, rfl⟩ := hfirst.of_credentials_eq_none hbare
    exact ⟨by simp, rfl⟩
  · rw [hturn]
    exact .requeuing hfirst hrefused hc

/-- The turn of an errand that was refused and queues for logging in again. If a stored token is
still of use it is the one that was refused. -/
theorem Standing.turn_requeuing {answer : Answer} {c : Credentials} {t : Turn}
    (hfirst : First client slot t.now token xs s) (hrefused : Refused answer)
    (hc : client.credentials = some c) :
    Standing client slot t.now
      ((⟨xs ++ [(e.call token, answer)], .queuing (some token), ⟨s, false⟩⟩ : Progress e).turn
        client t) := by
  cases hvalid : s.validToken t.now with
  | none =>
    rw [Progress.turn_queuing_of_none hc hvalid]
    exact .relogging hfirst hrefused hc
  | some other =>
    obtain rfl := hfirst.eq_of_validToken hvalid
    rw [Progress.turn_queuing_of_rejected hc hvalid]
    exact .relogging hfirst hrefused hc

/-- The turn that ends the second login. -/
theorem Standing.turn_relogging {answer : Answer} {c : Credentials} {t : Turn}
    (hfirst : First client slot t.now token xs s) (hrefused : Refused answer)
    (hc : client.credentials = some c) (s' : SessionSlot) :
    Standing client slot t.now
      ((⟨xs ++ [(e.call token, answer)], .loggingIn c (some token), ⟨s', true⟩⟩ : Progress e).turn
        client t) := by
  have hended : ∀ s result, Standing client slot t.now
      (⟨xs ++ [(e.call token, answer), (loginCall c, t.answer)], .ended result, ⟨s, false⟩⟩ :
        Progress e) :=
    ended_of_credentials hc (hfirst.isProtocol [e.call token, loginCall c] (by simp)) (by simp)
  rcases Progress.turn_loggingIn_cases (e := e) client (xs ++ [(e.call token, answer)]) c
    (some token) s' t with ⟨token', htoken, hturn⟩ | ⟨reason, hturn⟩
  · rw [hturn, List.append_assoc, List.singleton_append]
    exact .of_ask (.reasking hfirst hrefused hc htoken) (hended _)
  · rw [hturn, List.append_assoc, List.singleton_append]
    exact hended _ _

/-- The turn in which an errand takes in what it has asked for once more. -/
theorem Standing.turn_reasking {token' : String} {answer answer' : Answer} {c : Credentials}
    {t : Turn} (hfirst : First client slot t.now token xs s) (hc : client.credentials = some c)
    (s' : SessionSlot) :
    Standing client slot t.now
      ((⟨xs ++ [(e.call token, answer), (loginCall c, answer')], .asking token' true,
        ⟨s', false⟩⟩ : Progress e).turn client t) := by
  rcases Progress.turn_asking_cases (e := e) client
    (xs ++ [(e.call token, answer), (loginCall c, answer')]) token' true ⟨s', false⟩ t with
    ⟨result, hturn⟩ | ⟨hagain, -⟩
  · rw [hturn]
    exact ended_of_credentials hc
      (hfirst.isProtocol [e.call token, loginCall c, e.call token'] (by simp))
      (by simp) s' result
  · cases hagain

/-- **A turn of an errand that is alone leads from one standing to another.** -/
theorem Standing.turn {p : Progress e} (h : Standing client slot now p) {t : Turn}
    (hle : now ≤ t.now) : Standing client slot t.now (p.turn client t) := by
  cases h with
  | starting => exact turn_start client slot t
  | queuing hnone => exact turn_queuing (validToken_eq_none_of_le hle hnone)
  | loggingIn hc hnone => exact turn_loggingIn hc (validToken_eq_none_of_le hle hnone)
  | asking hfirst _ => exact turn_asking (hfirst.of_le hle)
  | requeuing hfirst hrefused hc => exact turn_requeuing (hfirst.of_le hle) hrefused hc
  | relogging hfirst hrefused hc => exact turn_relogging (hfirst.of_le hle) hrefused hc _
  | reasking hfirst _ hc _ => exact turn_reasking (hfirst.of_le hle) hc _
  | ended hprotocol hbare =>
    rw [Progress.turn_of_call?_eq_none rfl]
    exact .ended hprotocol hbare

/-! ### The session file in a turn -/

/-- What becomes of the session file in the turn that ends a login: nothing, or it is given the
token that the login has brought, or the attempt to do so breaks off. -/
theorem Progress.slot_turn_loggingIn (client : Client) (xs : List (Call × Answer))
    (c : Credentials) (rejected : Option String) (s : SessionSlot) (t : Turn) :
    let q := (⟨xs, .loggingIn c rejected, ⟨s, true⟩⟩ : Progress e).turn client t
    q.shared.slot = s ∨
      (∃ xs c token, q.exchanges = xs ++ [(loginCall c, t.answer)] ∧
        Brings client t.answer token ∧ s.save? token = some q.shared.slot) ∨
      ∃ xs c token, q.exchanges = xs ++ [(loginCall c, t.answer)] ∧
        Brings client t.answer token ∧ q.shared.slot = (s.save token).1 ∧ s.BreaksOff token := by
  intro q
  rcases turn_loggingIn_cases (e := e) client xs c rejected s t with
    ⟨token, htoken, hturn⟩ | ⟨reason, hturn⟩
  · have hq : q = ⟨xs ++ [(loginCall c, t.answer)], .ask token rejected.isSome,
        ⟨(s.save token).1, false⟩⟩ := hturn
    have hbrings := loginToken_eq_ok_iff.mp htoken
    rw [hq]
    rcases s.save_cases token with hsaved | hsame | hbroken
    · exact .inr (.inl ⟨xs, c, token, rfl, hbrings, hsaved⟩)
    · exact .inl hsame
    · exact .inr (.inr ⟨xs, c, token, rfl, hbrings, rfl, hbroken⟩)
  · exact .inl (congrArg (fun p : Progress e => p.shared.slot) hturn)

/-- Nothing becomes of the session file in the turn of an errand that starts. -/
theorem Progress.slot_turn_start (client : Client) (slot : SessionSlot) (t : Turn) :
    ((start slot : Progress e).turn client t).shared.slot = slot := by
  rcases turn_start_cases (e := e) client slot t with ⟨-, hturn⟩ | ⟨token, -, hturn⟩ <;> rw [hturn]

/-- Nothing becomes of the session file in a turn of an errand that queues and finds no token. -/
theorem Progress.slot_turn_queuing {rejected : Option String} {t : Turn}
    (hnone : s.validToken t.now = none) :
    ((⟨xs, .queuing rejected, ⟨s, false⟩⟩ : Progress e).turn client t).shared.slot = s := by
  cases hc : client.credentials with
  | none => rw [turn_queuing_of_bare hc hnone]
  | some c => rw [turn_queuing_of_none hc hnone]

/-- Nothing becomes of the session file in a turn in which an errand takes in what it has asked
for. -/
theorem Progress.slot_turn_asking (client : Client) (xs : List (Call × Answer)) (token : String)
    (again : Bool) (shared : Shared) (t : Turn) :
    ((⟨xs, .asking token again, shared⟩ : Progress e).turn client t).shared.slot =
      shared.slot := by
  rcases turn_asking_cases (e := e) client xs token again shared t with
    ⟨result, hturn⟩ | ⟨-, -, -, hturn⟩ <;> rw [hturn]

/-- **What a turn can do to the session file**: nothing, or it removes the token that has just been
refused, or it writes the token that logging in has just brought, or it breaks off when writing
that. -/
theorem Standing.slot_turn {p : Progress e} (h : Standing client slot now p) {t : Turn}
    (hle : now ≤ t.now) :
    let q := p.turn client t
    q.shared.slot = p.shared.slot ∨
      (∃ xs token answer, p.exchanges = xs ++ [(e.call token, answer)] ∧ Refused answer ∧
        p.shared.slot.load = some token ∧ p.shared.slot.clear? = some q.shared.slot) ∨
      (∃ xs c token, q.exchanges = xs ++ [(loginCall c, t.answer)] ∧
        Brings client t.answer token ∧ p.shared.slot.save? token = some q.shared.slot) ∨
      ∃ xs c token, q.exchanges = xs ++ [(loginCall c, t.answer)] ∧
        Brings client t.answer token ∧ q.shared.slot = (p.shared.slot.save token).1 ∧
        p.shared.slot.BreaksOff token := by
  intro q
  cases h with
  | starting => exact .inl (Progress.slot_turn_start client slot t)
  | queuing hnone =>
    exact .inl (Progress.slot_turn_queuing (validToken_eq_none_of_le hle hnone))
  | loggingIn _ _ => exact (Progress.slot_turn_loggingIn client _ _ _ _ t).imp_right .inr
  | asking _ _ => exact .inl (Progress.slot_turn_asking client _ _ _ _ t)
  | @requeuing xs s token answer c hfirst hrefused hc =>
    cases hvalid : s.validToken t.now with
    | none => exact .inl (Progress.slot_turn_queuing hvalid)
    | some other =>
      obtain rfl := (hfirst.of_le hle).eq_of_validToken hvalid
      have hload := (SessionSlot.validToken_eq_some_iff.mp hvalid).1
      have hslot : q.shared.slot = s.clear?.getD s :=
        congrArg (fun p : Progress e => p.shared.slot) (Progress.turn_queuing_of_rejected hc hvalid)
      rw [hslot]
      cases hclear : s.clear? with
      | none => exact .inl rfl
      | some cleared => exact .inr (.inl ⟨xs, other, answer, rfl, hrefused, hload, rfl⟩)
  | relogging _ _ _ => exact (Progress.slot_turn_loggingIn client _ _ _ _ t).imp_right .inr
  | reasking _ _ _ _ => exact .inl (Progress.slot_turn_asking client _ _ _ _ t)
  | ended _ _ => exact .inl rfl

/-! ### Every errand that is alone -/

/-- Where an errand that is alone stands before its last turn. -/
theorem exists_standing_before (client : Client) (slot : SessionSlot) {ts : List Turn} {t : Turn}
    (hclock : ((ts ++ [t]).map (·.now)).Pairwise (· ≤ ·)) :
    ∃ now ≤ t.now, Standing client slot now (.after client slot ts : Progress e) := by
  induction ts using List.reverseRecOn generalizing t with
  | nil => exact ⟨t.now, le_refl _, .starting⟩
  | append_singleton ts u ih =>
    rw [List.map_append, List.pairwise_append] at hclock
    obtain ⟨hearlier, -, hlater⟩ := hclock
    obtain ⟨now, hle, hstanding⟩ := ih hearlier
    rw [Progress.after_append_singleton]
    refine ⟨u.now, hlater _ ?_ _ (List.mem_singleton_self _), hstanding.turn hle⟩
    exact List.mem_map_of_mem (List.mem_append_right ts (List.mem_singleton_self u))

/-- Where an errand that is alone stands after some turns. -/
theorem exists_standing_after (client : Client) (slot : SessionSlot) {ts : List Turn}
    (hclock : (ts.map (·.now)).Pairwise (· ≤ ·)) :
    ∃ now, (∀ t, ts.getLast? = some t → now = t.now) ∧
      Standing client slot now (.after client slot ts : Progress e) := by
  rcases List.eq_nil_or_concat ts with rfl | ⟨us, t, rfl⟩
  · exact ⟨.epoch, (fun _ hlast => nomatch hlast), .starting⟩
  · rw [List.concat_eq_append] at hclock ⊢
    obtain ⟨now, hle, hstanding⟩ := exists_standing_before (e := e) client slot hclock
    rw [Progress.after_append_singleton]
    refine ⟨t.now, fun u hu => ?_, hstanding.turn hle⟩
    rw [List.getLast?_concat] at hu
    rw [Option.some.inj hu]

/-- Every turn of an errand that is alone brings it closer to its end. -/
theorem rank_foldl_turn_le (client : Client) (ts : List Turn) {p : Progress e}
    (h : p.shared.loggingIn = p.stage.isLoggingIn) :
    (ts.foldl (Progress.turn client) p).stage.rank ≤ p.stage.rank - ts.length := by
  induction ts generalizing p with
  | nil => exact le_refl _
  | cons t ts ih =>
    obtain ⟨xs, stage, shared⟩ := p
    have hwaits : stage.waits shared = false := by
      cases stage with
      | queuing => exact h
      | _ => rfl
    have hrank := Stage.rank_advance client t shared stage hwaits
    refine (ih (p := Progress.turn client ⟨xs, stage, shared⟩ t)
      (Stage.loggingIn_advance client t h)).trans ?_
    rw [List.length_cons]
    exact (Nat.sub_le_sub_right hrank _).trans (by dsimp only; omega)

/-- A call tells the token that it carries. -/
theorem call_injective (e : Errand) {token token' : String} (h : e.call token = e.call token') :
    token = token' := by
  cases e <;> exact Option.some.inj (congrArg Call.token h)

/-- Asking is not logging in. -/
theorem loginCall_ne_call (c : Credentials) (e : Errand) (token : String) :
    loginCall c ≠ e.call token := by
  intro h
  have := congrArg Call.isLogin h
  simp at this

/-- The calls that were made and the one that is being made, by their kinds. -/
theorem Standing.isProtocol {p : Progress e} (h : Standing client slot now p) :
    IsProtocol p.calls := by
  rw [Progress.calls]
  cases h with
  | starting => exact .inr List.nil_prefix
  | queuing _ => exact .inr List.nil_prefix
  | loggingIn _ _ => exact .inl (by simp [Stage.call?])
  | asking hfirst _ => exact hfirst.isProtocol _ (by simp [Stage.call?])
  | requeuing hfirst _ _ =>
    dsimp only
    rw [List.map_append, List.append_assoc]
    exact hfirst.isProtocol _ (by simp [Stage.call?])
  | relogging hfirst _ _ =>
    dsimp only
    rw [List.map_append, List.append_assoc]
    exact hfirst.isProtocol _ (by simp [Stage.call?])
  | reasking hfirst _ _ _ =>
    dsimp only
    rw [List.map_append, List.append_assoc]
    exact hfirst.isProtocol _ (by simp [Stage.call?])
  | ended hprotocol _ =>
    dsimp only [Stage.call?]
    rw [Option.toList_none, List.append_nil]
    exact hprotocol

/-- Without credentials there is no logging in, and nothing becomes of the session file. -/
theorem Standing.of_credentials_eq_none {p : Progress e} (h : Standing client slot now p)
    (hbare : client.credentials = none) :
    (∀ call ∈ p.calls, call.isLogin = false) ∧ p.shared.slot = slot := by
  rw [Progress.calls]
  cases h with
  | starting => exact ⟨by simp [Progress.start, Stage.call?], rfl⟩
  | queuing _ => exact ⟨by simp [Stage.call?], rfl⟩
  | loggingIn hc _ => cases hbare.symm.trans hc
  | asking hfirst _ =>
    obtain ⟨rfl, rfl⟩ := hfirst.of_credentials_eq_none hbare
    exact ⟨by simp [Stage.call?], rfl⟩
  | requeuing _ _ hc => cases hbare.symm.trans hc
  | relogging _ _ hc => cases hbare.symm.trans hc
  | reasking _ _ hc _ => cases hbare.symm.trans hc
  | ended _ hold =>
    dsimp only [Stage.call?]
    rw [Option.toList_none, List.append_nil]
    exact hold hbare

/-- Calls that log in no more than not at all are one at most. -/
theorem IsProtocol.length_le_one {calls : List Call} (h : IsProtocol calls)
    (hno : ∀ call ∈ calls, call.isLogin = false) : calls.length ≤ 1 := by
  match calls with
  | [] => exact Nat.zero_le 1
  | [_] => exact le_refl 1
  | first :: second :: rest =>
    obtain ⟨hfirst, hsecond, -⟩ := List.forall_mem_cons.mp hno |>.imp_right List.forall_mem_cons.mp
    rcases h with hpart | hpart <;> simp [hfirst, hsecond] at hpart

/-- What has come before an errand asks: its token is the stored one, and of use; or it has just
logged in; or it has asked before, was refused and has just logged in again. -/
theorem Standing.exchanges_of_call? {p : Progress e} (h : Standing client slot now p)
    {token : String} (hcall : p.stage.call? = some (e.call token)) :
    (p.exchanges = [] ∧ slot.validToken now = some token) ∨
      (∃ c answer, p.exchanges = [(loginCall c, answer)] ∧ Brings client answer token) ∨
      ∃ xs first answer c answer', (∀ x ∈ xs, x.1.isLogin = true) ∧
        p.exchanges = xs ++ [(e.call first, answer), (loginCall c, answer')] ∧
        Refused answer ∧ Brings client answer' token := by
  cases h with
  | starting => cases hcall
  | queuing _ => cases hcall
  | requeuing _ _ _ => cases hcall
  | ended _ _ => cases hcall
  | loggingIn _ _ => exact absurd (Option.some.inj hcall) (loginCall_ne_call _ _ _)
  | relogging _ _ _ => exact absurd (Option.some.inj hcall) (loginCall_ne_call _ _ _)
  | asking hfirst hvalid =>
    obtain rfl := call_injective e (Option.some.inj hcall)
    cases hfirst with
    | stored _ => exact .inl ⟨rfl, hvalid rfl⟩
    | brought hc _ htoken => exact .inr (.inl ⟨_, _, rfl, loginToken_eq_ok_iff.mp htoken⟩)
  | reasking hfirst hrefused hc htoken =>
    obtain rfl := call_injective e (Option.some.inj hcall)
    refine .inr (.inr ⟨_, _, _, _, _, ?_, rfl, hrefused, loginToken_eq_ok_iff.mp htoken⟩)
    cases hfirst with
    | stored _ => exact fun _ hx => nomatch hx
    | brought _ _ _ => exact List.forall_mem_singleton.mpr (isLogin_loginCall _)

/-- **The protocol of an errand.** For any credentials, any session file, any errand and any
answers, with nobody else on the way and a clock that does not go back:
* the calls are at most these: log in, ask, log in, ask, of which the first may be left out, and
  after seven turns the errand has ended;
* it asks with the stored token while that is valid, or with the token that logging in has just
  brought, which is the one in the body of an answer with success; and it asks once more only right
  after it was refused with 401 or 403 and has logged in;
* without credentials it does not log in, asks at most once and leaves the session file alone;
* in one turn the session file at most loses the token that was just refused, or is given the token
  that logging in has just brought; if there is no room for it, a first part of it is all that is
  left, from which nothing is loaded. -/
theorem protocol_after (client : Client) (e : Errand) (slot : SessionSlot) (ts : List Turn)
    (hclock : (ts.map (·.now)).Pairwise (· ≤ ·)) :
    let p : Progress e := .after client slot ts
    IsProtocol p.calls ∧ (7 ≤ ts.length → ∃ result, p.stage = .ended result) ∧
      (∀ token, p.stage.call? = some (e.call token) →
        (p.exchanges = [] ∧
          ∃ t, ts.getLast? = some t ∧ slot.validToken t.now = some token) ∨
        (∃ c answer, p.exchanges = [(loginCall c, answer)] ∧ Brings client answer token) ∨
        ∃ xs first answer c answer', (∀ x ∈ xs, x.1.isLogin = true) ∧
          p.exchanges = xs ++ [(e.call first, answer), (loginCall c, answer')] ∧
          Refused answer ∧ Brings client answer' token) ∧
      (client.credentials = none → (∀ call ∈ p.calls, call.isLogin = false) ∧
        p.calls.length ≤ 1 ∧ p.shared.slot = slot) ∧
      ∀ us t, ts = us ++ [t] →
        let q : Progress e := .after client slot us
        p.shared.slot = q.shared.slot ∨
          (∃ xs token answer, q.exchanges = xs ++ [(e.call token, answer)] ∧ Refused answer ∧
            q.shared.slot.load = some token ∧ q.shared.slot.clear? = some p.shared.slot) ∨
          (∃ xs c token, p.exchanges = xs ++ [(loginCall c, t.answer)] ∧
            Brings client t.answer token ∧ q.shared.slot.save? token = some p.shared.slot) ∨
          ∃ xs c token, p.exchanges = xs ++ [(loginCall c, t.answer)] ∧
            Brings client t.answer token ∧ p.shared.slot = (q.shared.slot.save token).1 ∧
            q.shared.slot.BreaksOff token := by
  intro p
  obtain ⟨now, hlast, h⟩ : ∃ now, (∀ t, ts.getLast? = some t → now = t.now) ∧
      Standing client slot now p := exists_standing_after client slot hclock
  refine ⟨h.isProtocol, fun hlength => ?_, fun token hcall => ?_, fun hbare => ?_,
    fun us t hts => ?_⟩
  · have hrank : p.stage.rank ≤ 7 - ts.length :=
      rank_foldl_turn_le client ts (p := Progress.start slot) rfl
    exact Stage.rank_eq_zero_iff.mp (by omega)
  · refine (h.exchanges_of_call? hcall).imp_left fun ⟨hnil, hvalid⟩ => ⟨hnil, ?_⟩
    cases hlast' : ts.getLast? with
    | none =>
      obtain rfl := List.getLast?_eq_none_iff.mp hlast'
      cases hcall
    | some t => exact ⟨t, rfl, hlast t hlast' ▸ hvalid⟩
  · obtain ⟨hno, hslot⟩ := h.of_credentials_eq_none hbare
    exact ⟨hno, h.isProtocol.length_le_one hno, hslot⟩
  · subst hts
    obtain ⟨moment, hle, hstanding⟩ := exists_standing_before (e := e) client slot hclock
    have hturn : p = (Progress.after client slot us).turn client t :=
      Progress.after_append_singleton client slot us t
    rw [hturn]
    exact hstanding.slot_turn hle

/-- The outcome of an errand that has ended is the one that it has. -/
theorem Stage.eq_ended_get {stage : Stage e} (h : ∃ result, stage = .ended result)
    (hsome : stage.result?.isSome) : stage = .ended (stage.result?.get hsome) := by
  obtain ⟨result, rfl⟩ := h
  rfl

/-- What an errand does from its start to its end are seven turns. -/
theorem exists_after_eq_run {σ : Type} (client : Client) (outside : Option Call → σ → Turn × σ)
    (e : Errand) (slot : SessionSlot) (world : σ) :
    ∃ ts : List Turn, ts.length = 7 ∧
      (Progress.after client slot ts : Progress e).stage =
        .ended (client.run outside e slot world).1 ∧
      (Progress.after client slot ts : Progress e).shared.slot =
        (client.run outside e slot world).2.1 := by
  -- A starting errand has seven turns left.
  obtain ⟨ts, hlength, hstage, hshared⟩ := Stage.exists_foldl_turn_eq_follow client outside
    (.starting : Stage e).rank (.start slot : Progress e) world
  have hended := Stage.follow_ended client outside (.starting : Stage e).rank (.starting : Stage e)
    ⟨slot, false⟩ world rfl (le_refl _)
  simp only [Client.run, Progress.after]
  refine ⟨ts, hlength, ?_, ?_⟩
  · rw [hstage]
    exact Stage.eq_ended_get hended _
  · rw [hshared, Progress.start]

/-! ### A visit -/

/-- A client that can log in. -/
def visitor : Client :=
  ⟨⟨"http://localhost"⟩, some ⟨"washer", "secret"⟩⟩

/-- A token that expires in the year 2286. -/
def firstToken : String :=
  "eyJhbGciOiJIUzI1NiJ9.eyJzdWIiOiIxIiwiZXhwIjo5OTk5OTk5OTk5fQ.first"

/-- Another one. -/
def secondToken : String :=
  "eyJhbGciOiJIUzI1NiJ9.eyJzdWIiOiIxIiwiZXhwIjo5OTk5OTk5OTk5fQ.second"

/-- The answer that brings a token. -/
def granted (token : String) : Answer :=
  .reply 200 (String.ofList (SessionSlot.contentOf token).written)

/-- The first token is refused, the second one is not. -/
def visit : List Turn :=
  [.unreachable, .unreachable, granted firstToken, .reply 401 "", .unreachable,
    granted secondToken, .reply 200 "[]"].map (⟨.epoch, ·⟩)

/-- All four calls are made. -/
theorem protocol_after_visit :
    let p : Progress .devices := .after visitor (.file none) visit
    (visit.map (·.now)).Pairwise (· ≤ ·) ∧
      p.calls.map Call.path = [loginPath, "/api/devices", loginPath, "/api/devices"] ∧
      IsProtocol p.calls ∧ ∃ result, p.stage = .ended result := by
  intro p
  have hclock : (visit.map (·.now)).Pairwise (· ≤ ·) := by decide
  have hlength : 7 ≤ visit.length := by decide
  have hpaths : p.calls.map Call.path =
      [loginPath, "/api/devices", loginPath, "/api/devices"] := by
    decide +kernel
  obtain ⟨hprotocol, hended, -⟩ := protocol_after visitor .devices (.file none) visit hclock
  exact ⟨hclock, hpaths, hprotocol, hended hlength⟩

end Household.Remote
