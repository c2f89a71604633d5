import Household.Proofs.Remote.Fetching
import Household.Proofs.Remote.Protocol
import Mathlib.Tactic.MkIffOfInductiveProp

/-!
# One Login for All

Errands of one client that have their turns in any order share one login. `Phase` follows them: as
long as nobody has logged in, a token that was refused is the one that was stored at first; then one
errand logs in, and the others can only wait for it; then its token is in the session file, and all
other errands take it from there, since it is neither expired nor the one that was refused.

## Main results

* `Phase.turn`: a turn leads from one phase to another.
* `phase_run`: some turns of errands that were about to start.
* `one_login_for_all`: if the server refuses the token that was stored at first and accepts those
  which it gives, one login is made and all errands bring what was asked for.
* `forall_logsIn_eq_false`: if it does not refuse the stored token nobody logs in.
* `exists_failures_of_obliging`: a token that no header can hold is of no use.
-/

namespace Household.Remote

variable {e : Errand} {client : Client} {slot : SessionSlot} {traffic : Traffic} {shared : Shared}
  {i : Nat} {t : Turn} {v : Visit} {tokens : List String} {token : String}

/-! ### What the server does -/

/-- The token that a login brings in this turn. -/
def Visit.brought? (client : Client) (v : Visit) : Option String :=
  if (v.traffic.call? v.place).any (·.isLogin) then (client.loginToken v.turn.answer).toOption
  else none

/-- The tokens that logging in has brought, the first one first. -/
def brought (client : Client) (vs : List Visit) : List String :=
  vs.filterMap (·.brought? client)

/-- The token with which an errand has asked, and what is wrong with the answer that it takes in in
this turn, if anything is. -/
def Visit.asked? (client : Client) (v : Visit) : Option (String × Option SourceError) :=
  match v.traffic.errands[v.place]? with
  | some ⟨e, .asking token _⟩ =>
    some (token, SourceError.ofAnswer? (v.turn.answer.read client.address e.path e.ofJson?))
  | _ => none

/-- In this turn the server and the clock do what one relies on: every login brings a token; the
token that was stored at first is refused, and these tokens are accepted and have not expired. -/
@[mk_iff]
structure Visit.IsObliging (client : Client) (slot : SessionSlot) (tokens : List String)
    (v : Visit) : Prop where
  grants : (v.traffic.call? v.place).any (·.isLogin) = true → (v.brought? client).isSome
  refuses : ∀ x ∈ v.asked? client, slot.load = some x.1 → x.2 = some .notAuthenticated
  accepts : ∀ x ∈ v.asked? client, x.1 ∈ tokens → x.2 = none
  lasting : ∀ token ∈ tokens, Token.isValid token v.turn.now = true

/-- The server refuses the token that was stored at first and accepts those it gives, which are
others. -/
@[mk_iff]
structure Obliging (client : Client) (slot : SessionSlot) (vs : List Visit) : Prop where
  each : ∀ v ∈ vs, v.IsObliging client slot (brought client vs)
  differs : ∀ token ∈ brought client vs, slot.load ≠ some token

/-- A header can hold the tokens that logging in has brought, and the one that was stored at first
if it was valid at any time. -/
@[mk_iff]
structure Sendable (client : Client) (slot : SessionSlot) (vs : List Visit) : Prop where
  stored : ∀ v ∈ vs, ∀ token ∈ slot.validToken v.turn.now, isHeaderText token = true
  brought : ∀ token ∈ brought client vs, isHeaderText token = true

/-! ### Stages before and after the login -/

/-- How far an errand can be while it has not got to know any token but the one that was stored at
first. -/
inductive Stage.IsEarly (slot : SessionSlot) : Stage e → Prop
  | starting : IsEarly slot .starting
  | queuing {rejected : Option String} (h : rejected = none ∨ rejected = slot.load) :
      IsEarly slot (.queuing rejected)
  | asking {token : String} (h : slot.load = some token) : IsEarly slot (.asking token false)

/-- How far an errand can be once a login has brought a token. -/
inductive Stage.IsLate (slot : SessionSlot) (token : String) : Stage e → Prop
  | early {stage : Stage e} (h : stage.IsEarly slot) : IsLate slot token stage
  | asking (again : Bool) : IsLate slot token (.asking token again)
  | ended (received : e.Received) : IsLate slot token (.ended (.ok received))

/-- An early errand does not log in. -/
theorem Stage.IsEarly.isLoggingIn_eq_false {stage : Stage e} (h : stage.IsEarly slot) :
    stage.isLoggingIn = false := by
  cases h <;> rfl

/-- Nor does a late one. -/
theorem Stage.IsLate.isLoggingIn_eq_false {stage : Stage e} (h : stage.IsLate slot token) :
    stage.isLoggingIn = false := by
  cases h with
  | early h => exact h.isLoggingIn_eq_false
  | asking again => rfl
  | ended received => rfl

/-- What the session file can be before the login has brought its token: it may have been
removed. -/
structure Remains (slot s : SessionSlot) : Prop where
  usable : s.IsUsable
  eq_or : s = slot ∨ s.load = none

/-- A valid token that it still holds was stored at first. -/
theorem Remains.validToken {s : SessionSlot} (h : Remains slot s) {now : Instant}
    (hvalid : s.validToken now = some token) : slot.validToken now = some token := by
  rcases h.eq_or with rfl | hnone
  · exact hvalid
  · cases (SessionSlot.validToken_of_load_eq_none hnone).symm.trans hvalid

/-- The file remains as it is or is removed. -/
theorem Remains.clear {s : SessionSlot} (h : Remains slot s) :
    Remains slot (s.clear?.getD s) := by
  cases hclear : s.clear? with
  | none => exact h
  | some cleared =>
    exact ⟨h.usable.clear? hclear, .inr (SessionSlot.load_clear hclear)⟩

/-- With credentials an errand begins to log in. -/
theorem Stage.exists_logIn_eq (hc : client.credentials.isSome) (rejected : Option String)
    (shared : Shared) :
    ∃ c, (logIn client rejected shared : Stage e × Shared) =
      (.loggingIn c rejected, { shared with loggingIn := true }) := by
  obtain ⟨c, hc⟩ := Option.isSome_iff_exists.mp hc
  exact ⟨c, by rw [logIn, hc]⟩

/-- With credentials an errand whose token is refused for the first time queues for logging in. -/
theorem Stage.advance_asking_of_refused (hc : client.credentials.isSome)
    (hrefused : t.answer.read client.address e.path e.ofJson? = .error .notAuthenticated) :
    (Stage.asking token false : Stage e).advance client t shared =
      (.queuing (some token), shared) := by
  rw [advance, hrefused]
  dsimp only
  rw [if_pos ⟨rfl, rfl, hc⟩]

/-- **A turn of an early errand**: it remains early and changes nothing, or nobody else is logging
in and it begins to. -/
theorem Stage.IsEarly.advance {stage : Stage e} (h : stage.IsEarly slot)
    (hc : client.credentials.isSome) (hslot : Remains slot shared.slot)
    (hsendable : ∀ token ∈ slot.validToken t.now, isHeaderText token = true)
    (hrefuses : ∀ token again, stage = .asking token again → slot.load = some token →
      t.answer.read client.address e.path e.ofJson? = .error .notAuthenticated) :
    ((stage.advance client t shared).1.IsEarly slot ∧ (stage.advance client t shared).2 = shared) ∨
      shared.loggingIn = false ∧ ∃ c rejected s, Remains slot s ∧
        stage.advance client t shared = (.loggingIn c rejected, ⟨s, true⟩) := by
  cases h with
  | starting =>
    left
    rw [Stage.advance]
    cases hvalid : shared.slot.validToken t.now with
    | none => exact ⟨.queuing (.inl rfl), rfl⟩
    | some token =>
      have hstored := hslot.validToken hvalid
      dsimp only
      rw [ask, if_pos (hsendable token hstored)]
      exact ⟨.asking (SessionSlot.validToken_eq_some_iff.mp hstored).1, rfl⟩
  | @queuing rejected hrejected =>
    rw [Stage.advance]
    split
    · exact .inl ⟨.queuing hrejected, rfl⟩
    next hflag =>
    rw [Bool.not_eq_true] at hflag
    cases hvalid : shared.slot.validToken t.now with
    | none =>
      obtain ⟨c, hlogIn⟩ := exists_logIn_eq (e := e) hc rejected shared
      exact .inr ⟨hflag, c, rejected, shared.slot, hslot, hlogIn⟩
    | some token =>
      have hstored := hslot.validToken hvalid
      dsimp only
      split
      · obtain ⟨c, hlogIn⟩ := exists_logIn_eq (e := e) hc rejected
          { shared with slot := shared.slot.clear?.getD shared.slot }
        exact .inr ⟨hflag, c, rejected, _, hslot.clear, hlogIn⟩
      · next hne =>
        -- Only the token that was stored at first can have been refused, and it is this one.
        have hload := (SessionSlot.validToken_eq_some_iff.mp hstored).1
        obtain rfl : rejected = none := hrejected.resolve_right fun heq => hne (heq.trans hload)
        left
        rw [ask, if_pos (hsendable token hstored)]
        exact ⟨.asking hload, rfl⟩
  | @asking token hload =>
    rw [advance_asking_of_refused hc (hrefuses token false rfl hload)]
    exact .inl ⟨.queuing (.inr hload.symm), rfl⟩

/-- **A turn of a late errand**: it remains late and changes nothing. -/
theorem Stage.IsLate.advance {stage : Stage e} (h : stage.IsLate slot token)
    (hc : client.credentials.isSome) (hflag : shared.loggingIn = false)
    (hload : shared.slot.load = some token) (hvalid : Token.isValid token t.now = true)
    (hdiffers : slot.load ≠ some token) (hsendable : isHeaderText token = true)
    (hrefuses : ∀ token again, stage = .asking token again → slot.load = some token →
      t.answer.read client.address e.path e.ofJson? = .error .notAuthenticated)
    (haccepts : ∀ again, stage = .asking token again →
      ∃ received, t.answer.read client.address e.path e.ofJson? = .ok received) :
    (stage.advance client t shared).1.IsLate slot token ∧
      (stage.advance client t shared).2 = shared := by
  have hstored : shared.slot.validToken t.now = some token :=
    SessionSlot.validToken_eq_some_iff.mpr ⟨hload, hvalid⟩
  cases h with
  | early h =>
    cases h with
    | starting =>
      rw [Stage.advance, hstored]
      dsimp only
      rw [ask, if_pos hsendable]
      exact ⟨.asking false, rfl⟩
    | @queuing rejected hrejected =>
      have hne : rejected ≠ some token := by
        rcases hrejected with rfl | rfl
        · exact (Option.some_ne_none token).symm
        · exact hdiffers
      rw [Stage.advance, hflag, if_neg Bool.false_ne_true, hstored]
      dsimp only
      rw [if_neg hne, ask, if_pos hsendable]
      exact ⟨.asking _, rfl⟩
    | @asking other hother =>
      rw [advance_asking_of_refused hc (hrefuses other false rfl hother)]
      exact ⟨.early (.queuing (.inr hother.symm)), rfl⟩
  | asking again =>
    obtain ⟨received, hreceived⟩ := haccepts again rfl
    rw [Stage.advance, hreceived]
    exact ⟨.ended received, rfl⟩
  | ended received => exact ⟨.ended received, rfl⟩

/-- **The turn that ends a login** stores the token and asks with it. -/
theorem Stage.advance_loggingIn (c : Credentials) (rejected : Option String)
    (husable : shared.slot.IsUsable) (htoken : client.loginToken t.answer = .ok token)
    (hsendable : isHeaderText token = true) :
    ∃ s, s.load = some token ∧
      (Stage.loggingIn c rejected : Stage e).advance client t shared =
        (.asking token rejected.isSome, ⟨s, false⟩) := by
  obtain ⟨s, hsave, hload, -⟩ := husable.exists_save?_eq_some token
  refine ⟨s, hload, ?_⟩
  rw [advance, htoken]
  dsimp only
  rw [SessionSlot.succeeded?_eq_some_iff.mp hsave, ask, if_pos hsendable]

/-! ### Visits -/

/-- To an errand that is not there nothing is brought. -/
theorem Visit.brought?_of_getElem?_eq_none (h : v.traffic.errands[v.place]? = none) :
    v.brought? client = none := by
  rw [brought?, Traffic.call?, h]
  rfl

/-- A login brings a token only to the errand that is logging in. -/
theorem Visit.brought?_of_isLoggingIn_eq_false {stage : Stage e}
    (h : v.traffic.errands[v.place]? = some ⟨e, stage⟩) (hstage : stage.isLoggingIn = false) :
    v.brought? client = none := by
  rw [brought?, Traffic.call?, h, Option.bind_some, Stage.any_isLogin_call?, hstage]
  rfl

/-- What a login brings. -/
theorem Visit.brought?_eq_some_iff {c : Credentials} {rejected : Option String}
    (h : v.traffic.errands[v.place]? = some ⟨e, .loggingIn c rejected⟩) :
    v.brought? client = some token ↔ client.loginToken v.turn.answer = .ok token := by
  rw [brought?, Traffic.call?, h]
  change (client.loginToken v.turn.answer).toOption = some token ↔ _
  cases client.loginToken v.turn.answer <;> simp [Except.toOption]

/-- An errand that is not there does not log in. -/
theorem Visit.logsIn_of_getElem?_eq_none (h : v.traffic.errands[v.place]? = none) :
    v.logsIn client = false := by
  rw [logsIn, sent?, Traffic.turn_of_getElem?_eq_none h, Traffic.call?, h]
  rfl

/-- An errand that logs in is logging in after its turn. -/
theorem Visit.logsIn_eq {stage : Stage e} (h : v.traffic.errands[v.place]? = some ⟨e, stage⟩) :
    v.logsIn client = (stage.advance client v.turn v.traffic.shared).1.isLoggingIn := by
  rw [logsIn, sent?, Traffic.call?, Traffic.getElem?_turn_self client h]
  exact Stage.any_isLogin_call? _

/-- What an errand that has asked takes in. -/
theorem Visit.asked?_eq {again : Bool}
    (h : v.traffic.errands[v.place]? = some ⟨e, .asking token again⟩) :
    v.asked? client = some (token,
      SourceError.ofAnswer? (v.turn.answer.read client.address e.path e.ofJson?)) := by
  rw [asked?, h]

/-- A token that was stored at first is refused. -/
theorem Visit.IsObliging.read_eq_error (h : v.IsObliging client slot tokens) {again : Bool}
    (hplace : v.traffic.errands[v.place]? = some ⟨e, .asking token again⟩)
    (hload : slot.load = some token) :
    v.turn.answer.read client.address e.path e.ofJson? = .error .notAuthenticated := by
  have hrefused := h.refuses _ (Visit.asked?_eq hplace) hload
  cases hread : v.turn.answer.read client.address e.path e.ofJson? with
  | error reason =>
    rw [hread] at hrefused
    exact congrArg _ (Option.some.inj hrefused)
  | ok received =>
    rw [hread] at hrefused
    cases hrefused

/-- A token that a login has brought is accepted. -/
theorem Visit.IsObliging.exists_read_eq_ok (h : v.IsObliging client slot tokens) {again : Bool}
    (hplace : v.traffic.errands[v.place]? = some ⟨e, .asking token again⟩)
    (htoken : token ∈ tokens) :
    ∃ received, v.turn.answer.read client.address e.path e.ofJson? = .ok received := by
  have haccepted := h.accepts _ (Visit.asked?_eq hplace) htoken
  cases hread : v.turn.answer.read client.address e.path e.ofJson? with
  | error reason =>
    rw [hread] at haccepted
    cases haccepted
  | ok received => exact ⟨received, rfl⟩

/-! ### Phases -/

/-- Something holds of the stages of all errands at their places. -/
def Traffic.Forall (traffic : Traffic) (P : Nat → (e : Errand) → Stage e → Prop) : Prop :=
  ∀ (j : Nat) (e : Errand) (stage : Stage e), traffic.errands[j]? = some ⟨e, stage⟩ → P j e stage

/-- What is known of the errands while so many logins have been made, which have brought these
tokens. -/
inductive Phase (slot : SessionSlot) (traffic : Traffic) : Nat → List String → Prop
  /-- Nobody has logged in. -/
  | early (hshared : traffic.shared = ⟨slot, false⟩)
      (hstages : traffic.Forall fun _ _ stage => stage.IsEarly slot) : Phase slot traffic 0 []
  /-- One errand logs in. -/
  | busy {i : Nat} {e : Errand} {c : Credentials} {rejected : Option String}
      (hflag : traffic.shared.loggingIn = true) (hslot : Remains slot traffic.shared.slot)
      (hholder : traffic.errands[i]? = some ⟨e, .loggingIn c rejected⟩)
      (hothers : traffic.Forall fun j _ stage => j ≠ i → stage.IsEarly slot) :
      Phase slot traffic 1 []
  /-- The login has brought a token. -/
  | late {token : String} (hflag : traffic.shared.loggingIn = false)
      (hload : traffic.shared.slot.load = some token)
      (hstages : traffic.Forall fun _ _ stage => stage.IsLate slot token) :
      Phase slot traffic 1 [token]

/-- What holds of all errands after a turn: it holds of the one whose turn it was, and held of the
others. -/
theorem Traffic.forall_turn {P : Nat → (e : Errand) → Stage e → Prop} {stage : Stage e}
    (hplace : traffic.errands[i]? = some ⟨e, stage⟩)
    (hself : P i e (stage.advance client t traffic.shared).1)
    (hothers : traffic.Forall fun j e stage => j ≠ i → P j e stage) :
    (traffic.turn client i t).Forall P := by
  intro j e' stage' hj
  by_cases heq : j = i
  · subst heq
    cases Option.some.inj ((getElem?_turn_self client hplace t).symm.trans hj)
    exact hself
  · rw [getElem?_turn_ne client (Ne.symm heq)] at hj
    exact hothers j e' stage' hj heq

/-- What the errands share after a turn. -/
theorem Traffic.shared_turn (client : Client) {stage : Stage e}
    (hplace : traffic.errands[i]? = some ⟨e, stage⟩) (t : Turn) :
    (traffic.turn client i t).shared = (stage.advance client t traffic.shared).2 := by
  rw [turn_of_getElem?_eq_some hplace]

/-- All that is relied on in a turn, when these tokens have been brought by its end. -/
structure Visit.IsRegular (client : Client) (slot : SessionSlot) (tokens : List String)
    (v : Visit) : Prop extends v.IsObliging client slot tokens where
  credentials : client.credentials.isSome
  usable : slot.IsUsable
  differs : ∀ token ∈ tokens, slot.load ≠ some token
  stored : ∀ token ∈ slot.validToken v.turn.now, isHeaderText token = true
  sendable : ∀ token ∈ tokens, isHeaderText token = true

/-- In such a turn an early errand remains early or begins to log in. -/
theorem Visit.IsRegular.advance_of_isEarly (hv : v.IsRegular client slot tokens) {stage : Stage e}
    (hplace : v.traffic.errands[v.place]? = some ⟨e, stage⟩) (h : stage.IsEarly slot)
    (hslot : Remains slot v.traffic.shared.slot) :
    ((stage.advance client v.turn v.traffic.shared).1.IsEarly slot ∧
        (stage.advance client v.turn v.traffic.shared).2 = v.traffic.shared) ∨
      v.traffic.shared.loggingIn = false ∧ ∃ c rejected s, Remains slot s ∧
        stage.advance client v.turn v.traffic.shared = (.loggingIn c rejected, ⟨s, true⟩) := by
  refine h.advance hv.credentials hslot hv.stored ?_
  rintro token again rfl hload
  exact hv.read_eq_error hplace hload

/-- A turn while nobody has logged in. -/
theorem Phase.turn_of_early (hv : v.IsRegular client slot []) {stage : Stage e}
    (hplace : v.traffic.errands[v.place]? = some ⟨e, stage⟩)
    (hshared : v.traffic.shared = ⟨slot, false⟩)
    (hstages : v.traffic.Forall fun _ _ stage => stage.IsEarly slot) :
    Phase slot (v.traffic.turn client v.place v.turn) (if v.logsIn client then 1 else 0) [] := by
  have hafter := Traffic.shared_turn client hplace v.turn
  have hslot : Remains slot v.traffic.shared.slot := hshared ▸ ⟨hv.usable, .inl rfl⟩
  rw [Visit.logsIn_eq hplace]
  rcases hv.advance_of_isEarly hplace (hstages _ e stage hplace) hslot with
    ⟨hstage, hsame⟩ | ⟨-, c, rejected, s, hs, hlogIn⟩
  · rw [hstage.isLoggingIn_eq_false]
    exact .early ((hafter.trans hsame).trans hshared)
      (Traffic.forall_turn hplace hstage fun j e' stage' hj _ => hstages j e' stage' hj)
  · have hself := Traffic.getElem?_turn_self client hplace v.turn
    rw [hlogIn] at hafter hself
    rw [hlogIn]
    refine .busy (congrArg Shared.loggingIn hafter) (hafter ▸ hs) hself fun j e' stage' hj hne => ?_
    rw [Traffic.getElem?_turn_ne client (Ne.symm hne)] at hj
    exact hstages j e' stage' hj

/-- A turn of another errand than the one that logs in. -/
theorem Phase.turn_of_busy (hv : v.IsRegular client slot []) {stage : Stage e}
    (hplace : v.traffic.errands[v.place]? = some ⟨e, stage⟩) {e' : Errand} {c : Credentials}
    {rejected : Option String} (hi : v.place ≠ i) (hflag : v.traffic.shared.loggingIn = true)
    (hslot : Remains slot v.traffic.shared.slot)
    (hholder : v.traffic.errands[i]? = some ⟨e', .loggingIn c rejected⟩)
    (hothers : v.traffic.Forall fun j _ stage => j ≠ i → stage.IsEarly slot) :
    Phase slot (v.traffic.turn client v.place v.turn) 1 [] ∧ v.logsIn client = false := by
  rw [Visit.logsIn_eq hplace]
  rcases hv.advance_of_isEarly hplace (hothers _ e stage hplace hi) hslot with
    ⟨hstage, hsame⟩ | ⟨hno, -⟩
  · have hkept := (Traffic.shared_turn client hplace v.turn).trans hsame
    refine ⟨.busy (hkept ▸ hflag) (hkept ▸ hslot)
      ((Traffic.getElem?_turn_ne client hi v.turn v.traffic).trans hholder) ?_,
      hstage.isLoggingIn_eq_false⟩
    exact Traffic.forall_turn hplace (fun _ => hstage)
      fun j e' stage' hj _ hne => hothers j e' stage' hj hne
  · cases hflag.symm.trans hno

/-- The turn in which the login brings its token. -/
theorem Phase.turn_of_holder (hv : v.IsRegular client slot [token]) {c : Credentials}
    {rejected : Option String}
    (hholder : v.traffic.errands[v.place]? = some ⟨e, .loggingIn c rejected⟩)
    (hslot : Remains slot v.traffic.shared.slot)
    (htoken : client.loginToken v.turn.answer = .ok token)
    (hothers : v.traffic.Forall fun j _ stage => j ≠ v.place → stage.IsEarly slot) :
    Phase slot (v.traffic.turn client v.place v.turn) 1 [token] ∧ v.logsIn client = false := by
  obtain ⟨s, hload, hadvance⟩ := Stage.advance_loggingIn (e := e) c rejected hslot.usable
    htoken (hv.sendable token List.mem_cons_self)
  have hafter := Traffic.shared_turn client hholder v.turn
  rw [hadvance] at hafter
  rw [Visit.logsIn_eq hholder, hadvance]
  refine ⟨.late (congrArg Shared.loggingIn hafter) (hafter ▸ hload) ?_, rfl⟩
  refine Traffic.forall_turn hholder ?_ fun j e' stage' hj hne =>
    .early (hothers j e' stage' hj hne)
  rw [hadvance]
  exact .asking _

/-- A turn after that. -/
theorem Phase.turn_of_late (hv : v.IsRegular client slot [token]) {stage : Stage e}
    (hplace : v.traffic.errands[v.place]? = some ⟨e, stage⟩)
    (hflag : v.traffic.shared.loggingIn = false)
    (hload : v.traffic.shared.slot.load = some token)
    (hstages : v.traffic.Forall fun _ _ stage => stage.IsLate slot token) :
    Phase slot (v.traffic.turn client v.place v.turn) 1 [token] ∧ v.logsIn client = false := by
  have htoken : token ∈ [token] := List.mem_cons_self
  have hrefuses : ∀ token again, stage = .asking token again → slot.load = some token →
      v.turn.answer.read client.address e.path e.ofJson? = .error .notAuthenticated := by
    rintro other again rfl hother
    exact hv.read_eq_error hplace hother
  have haccepts : ∀ again, stage = .asking token again →
      ∃ received, v.turn.answer.read client.address e.path e.ofJson? = .ok received := by
    rintro again rfl
    exact hv.exists_read_eq_ok hplace htoken
  obtain ⟨hstage, hsame⟩ := (hstages _ e stage hplace).advance hv.credentials hflag hload
    (hv.lasting token htoken) (hv.differs token htoken) (hv.sendable token htoken) hrefuses haccepts
  have hkept := (Traffic.shared_turn client hplace v.turn).trans hsame
  rw [Visit.logsIn_eq hplace]
  exact ⟨.late (hkept ▸ hflag) (hkept ▸ hload)
    (Traffic.forall_turn hplace hstage fun j e' stage' hj _ => hstages j e' stage' hj),
    hstage.isLoggingIn_eq_false⟩

/-- **A turn leads from one phase to another.** -/
theorem Phase.turn {n : Nat} (h : Phase slot v.traffic n tokens)
    (hv : v.IsRegular client slot (tokens ++ (v.brought? client).toList)) :
    Phase slot (v.traffic.turn client v.place v.turn) (n + if v.logsIn client then 1 else 0)
      (tokens ++ (v.brought? client).toList) := by
  cases hplace : v.traffic.errands[v.place]? with
  | none =>
    rw [Traffic.turn_of_getElem?_eq_none hplace, Visit.brought?_of_getElem?_eq_none hplace,
      Visit.logsIn_of_getElem?_eq_none hplace, Option.toList_none, List.append_nil]
    exact h
  | some errand =>
    obtain ⟨e, stage⟩ := errand
    cases h with
    | early hshared hstages =>
      have hno := (hstages _ e stage hplace).isLoggingIn_eq_false
      rw [Visit.brought?_of_isLoggingIn_eq_false hplace hno] at hv ⊢
      rw [Nat.zero_add]
      exact turn_of_early hv hplace hshared hstages
    | @busy i e' c rejected hflag hslot hholder hothers =>
      by_cases hi : v.place = i
      · subst hi
        obtain ⟨token, htoken⟩ := Option.isSome_iff_exists.mp (hv.grants (by
          rw [Traffic.call?, hholder]
          rfl))
        rw [htoken] at hv ⊢
        obtain ⟨hphase, hno⟩ := turn_of_holder hv hholder hslot
          ((Visit.brought?_eq_some_iff hholder).mp htoken) hothers
        rw [hno]
        exact hphase
      · have hno := (hothers _ e stage hplace hi).isLoggingIn_eq_false
        rw [Visit.brought?_of_isLoggingIn_eq_false hplace hno] at hv ⊢
        obtain ⟨hphase, hno⟩ := turn_of_busy hv hplace hi hflag hslot hholder hothers
        rw [hno]
        exact hphase
    | late hflag hload hstages =>
      have hno := (hstages _ e stage hplace).isLoggingIn_eq_false
      rw [Visit.brought?_of_isLoggingIn_eq_false hplace hno] at hv ⊢
      obtain ⟨hphase, hno⟩ := turn_of_late hv hplace hflag hload hstages
      rw [hno]
      exact hphase

/-! ### Runs -/

/-- What is relied on with some tokens is relied on with fewer. -/
theorem Visit.IsRegular.of_subset (h : v.IsRegular client slot tokens) {tokens' : List String}
    (hsubset : tokens' ⊆ tokens) : v.IsRegular client slot tokens' where
  grants := h.grants
  refuses := h.refuses
  accepts x hx hmem := h.accepts x hx (hsubset hmem)
  lasting token hmem := h.lasting token (hsubset hmem)
  credentials := h.credentials
  usable := h.usable
  differs token hmem := h.differs token (hsubset hmem)
  stored := h.stored
  sendable token hmem := h.sendable token (hsubset hmem)

/-- What a last turn brings comes after all else. -/
theorem brought_append_singleton (client : Client) (vs : List Visit) (v : Visit) :
    brought client (vs ++ [v]) = brought client vs ++ (v.brought? client).toList := by
  rw [brought, brought, List.filterMap_append, List.filterMap_cons, List.filterMap_nil]
  cases v.brought? client <;> rfl

/-- Errands that are about to start are about to start. -/
theorem Traffic.eq_starting_of_getElem? {es : List Errand} {stage : Stage e}
    (h : (starting slot es).errands[i]? = some ⟨e, stage⟩) : stage = .starting := by
  obtain ⟨_, -, hstage⟩ := Option.map_eq_some_iff.mp (List.getElem?_map.symm.trans h)
  cases hstage
  rfl

/-- **The phase after some turns** of errands that were about to start. -/
theorem phase_run (client : Client) (slot : SessionSlot) (es : List Errand)
    (ts : List (Nat × Turn))
    (h : ∀ v ∈ (Traffic.starting slot es).visits client ts,
      v.IsRegular client slot (brought client ((Traffic.starting slot es).visits client ts))) :
    Phase slot ((Traffic.starting slot es).run client ts)
      (((Traffic.starting slot es).visits client ts).countP (·.logsIn client))
      (brought client ((Traffic.starting slot es).visits client ts)) := by
  induction ts using List.reverseRecOn with
  | nil => exact .early rfl fun _ _ _ hj => Traffic.eq_starting_of_getElem? hj ▸ .starting
  | append_singleton ts t ih =>
    rw [Traffic.visits_append_singleton] at h ⊢
    rw [Traffic.run_append, List.countP_append, List.countP_singleton]
    rw [brought_append_singleton] at h ⊢
    have hbefore := ih fun v hv => (h v (List.mem_append_left _ hv)).of_subset
      (List.subset_append_left _ _)
    exact hbefore.turn (h _ (List.mem_append_right _ List.mem_cons_self))

/-- All errands have ended. -/
def Traffic.IsOver (traffic : Traffic) : Prop :=
  ∀ errand ∈ traffic.errands, ∃ result, errand.2 = .ended result

/-- If no turns are left all errands have ended. -/
theorem Traffic.isOver_of_rank_eq_zero (h : traffic.rank = 0) : traffic.IsOver := by
  intro errand hmem
  rw [rank, List.sum_eq_zero_iff_forall_eq_nat] at h
  exact Stage.rank_eq_zero_iff.mp (h _ (List.mem_map_of_mem hmem))

/-- Errands that are about to start have seven turns each. -/
theorem Traffic.rank_starting (slot : SessionSlot) (es : List Errand) :
    (starting slot es).rank = 7 * es.length := by
  induction es with
  | nil => rfl
  | cons e es ih =>
    rw [rank, starting] at ih ⊢
    rw [List.map_cons, List.map_cons, List.sum_cons, ih, List.length_cons]
    change 7 + _ = _
    omega

/-- At the latest after seven rounds for each errand all errands have ended. -/
theorem Traffic.isOver_run_flatten (client : Client) (slot : SessionSlot) (es : List Errand)
    {rounds : List (List (Nat × Turn))} (hlength : 7 * es.length ≤ rounds.length)
    (hrounds : ∀ r ∈ rounds, ∀ i < es.length, i ∈ r.map Prod.fst) :
    ((starting slot es).run client rounds.flatten).IsOver := by
  have hstart : (starting slot es).HasHolder := fun hflag => nomatch hflag
  have hrank := rank_run_flatten_le client hstart rounds (by rwa [starting, List.length_map])
  rw [rank_starting] at hrank
  exact isOver_of_rank_eq_zero (by omega)

/-- There is at most one login. -/
theorem Phase.le_one {n : Nat} (h : Phase slot traffic n tokens) : n ≤ 1 := by
  cases h with
  | early _ _ => exact Nat.zero_le 1
  | busy _ _ _ _ => exact Nat.le_refl 1
  | late _ _ _ => exact Nat.le_refl 1

/-- An errand that has ended has brought what was asked for. -/
theorem Phase.exists_ok {n : Nat} (h : Phase slot traffic n tokens)
    {result : Except SourceError e.Received} (hmem : ⟨e, .ended result⟩ ∈ traffic.errands) :
    ∃ received, result = .ok received := by
  obtain ⟨j, hj⟩ := List.mem_iff_getElem?.mp hmem
  cases h with
  | early _ hstages => cases hstages j e _ hj
  | @busy i e' c rejected _ _ hholder hothers =>
    have hne : j ≠ i := by
      rintro rfl
      cases Option.some.inj (hholder.symm.trans hj)
    cases hothers j e _ hj hne
  | late _ _ hstages =>
    cases hstages j e _ hj with
    | early hearly => cases hearly
    | ended received => exact ⟨received, rfl⟩

/-- Once all errands have ended one of them has logged in, and its token is stored. -/
theorem Phase.of_isOver {n : Nat} (h : Phase slot traffic n tokens) (hover : traffic.IsOver)
    (hne : traffic.errands ≠ []) :
    n = 1 ∧ ∃ token, tokens = [token] ∧ traffic.shared.slot.load = some token := by
  cases h with
  | early _ hstages =>
    obtain ⟨⟨e, stage⟩, hmem⟩ := List.exists_mem_of_ne_nil _ hne
    obtain ⟨result, hresult⟩ := hover _ hmem
    obtain ⟨j, hj⟩ := List.mem_iff_getElem?.mp hmem
    -- An early errand has not ended.
    cases hstages j e stage hj <;> cases hresult
  | busy _ _ hholder _ =>
    obtain ⟨result, hresult⟩ := hover _ (List.mem_of_getElem? hholder)
    cases hresult
  | @late token _ hload _ => exact ⟨rfl, token, rfl, hload⟩

/-! ### A token that is not refused -/

/-- How far an errand can be that has got to know no token but the stored one. -/
inductive Stage.IsContent (token : String) : Stage e → Prop
  | starting : IsContent token .starting
  | asking : IsContent token (.asking token false)
  | ended (result : Except SourceError e.Received) : IsContent token (.ended result)

/-- Such an errand does not log in. -/
theorem Stage.IsContent.isLoggingIn_eq_false {stage : Stage e} (h : stage.IsContent token) :
    stage.isLoggingIn = false := by
  cases h <;> rfl

/-- Such an errand remains so and changes nothing, as long as the stored token is valid and the
server does not refuse it. -/
theorem Stage.IsContent.advance {stage : Stage e} (h : stage.IsContent token)
    (hvalid : shared.slot.validToken t.now = some token)
    (hkept : ∀ again, stage = .asking token again →
      t.answer.read client.address e.path e.ofJson? ≠ .error .notAuthenticated) :
    (stage.advance client t shared).1.IsContent token ∧
      (stage.advance client t shared).2 = shared := by
  cases h with
  | starting =>
    rw [Stage.advance, hvalid]
    dsimp only
    rw [ask]
    split
    · exact ⟨.asking, rfl⟩
    · exact ⟨.ended _, rfl⟩
  | asking =>
    have hne := hkept false rfl
    rw [Stage.advance]
    cases hread : t.answer.read client.address e.path e.ofJson? with
    | ok received => exact ⟨.ended _, rfl⟩
    | error reason =>
      dsimp only
      rw [if_neg fun hagain => hne (hread.trans (congrArg _ hagain.1))]
      exact ⟨.ended _, rfl⟩
  | ended result => exact ⟨.ended result, rfl⟩

/-- The server does not refuse the token in this turn, and it has not expired. -/
@[mk_iff]
structure Visit.IsAccepting (client : Client) (token : String) (v : Visit) : Prop where
  keeps : ∀ x ∈ v.asked? client, x.1 = token → x.2 ≠ some .notAuthenticated
  lasting : Token.isValid token v.turn.now = true

/-- A turn of such errands. -/
theorem Visit.IsAccepting.turn (hv : v.IsAccepting client token)
    (hstages : v.traffic.Forall fun _ _ stage => stage.IsContent token)
    (hload : v.traffic.shared.slot.load = some token) :
    v.logsIn client = false ∧ (v.traffic.turn client v.place v.turn).shared = v.traffic.shared ∧
      (v.traffic.turn client v.place v.turn).Forall fun _ _ stage => stage.IsContent token := by
  cases hplace : v.traffic.errands[v.place]? with
  | none =>
    rw [Traffic.turn_of_getElem?_eq_none hplace]
    exact ⟨Visit.logsIn_of_getElem?_eq_none hplace, rfl, hstages⟩
  | some errand =>
    obtain ⟨e, stage⟩ := errand
    have hvalid : v.traffic.shared.slot.validToken v.turn.now = some token :=
      SessionSlot.validToken_eq_some_iff.mpr ⟨hload, hv.lasting⟩
    have hkept : ∀ again, stage = .asking token again →
        v.turn.answer.read client.address e.path e.ofJson? ≠ .error .notAuthenticated := by
      rintro again rfl hrefused
      refine hv.keeps _ (Visit.asked?_eq hplace) rfl ?_
      rw [hrefused]
      rfl
    obtain ⟨hstage, hsame⟩ := (hstages _ e stage hplace).advance hvalid hkept
    rw [Visit.logsIn_eq hplace]
    refine ⟨hstage.isLoggingIn_eq_false, (Traffic.shared_turn client hplace v.turn).trans hsame, ?_⟩
    exact Traffic.forall_turn hplace hstage fun j e' stage' hj _ => hstages j e' stage' hj

/-- **If the server does not refuse the stored token nobody logs in**, and the session file stays as
it is. -/
theorem forall_logsIn_eq_false (ts : List (Nat × Turn))
    (hstages : traffic.Forall fun _ _ stage => stage.IsContent token)
    (hload : traffic.shared.slot.load = some token)
    (h : ∀ v ∈ traffic.visits client ts, v.IsAccepting client token) :
    (∀ v ∈ traffic.visits client ts, v.logsIn client = false) ∧
      (traffic.run client ts).shared = traffic.shared := by
  induction ts generalizing traffic with
  | nil => exact ⟨fun _ hv => (nomatch hv), rfl⟩
  | cons t ts ih =>
    rw [Traffic.visits_cons] at h ⊢
    obtain ⟨hv, hlater⟩ := List.forall_mem_cons.mp h
    obtain ⟨hno, hshared, hcontent⟩ := hv.turn hstages hload
    obtain ⟨hrest, hrun⟩ := ih hcontent (by rwa [hshared]) hlater
    exact ⟨List.forall_mem_cons.mpr ⟨hno, hrest⟩, hrun.trans hshared⟩

/-! ### Any number of errands -/

/-- **One login serves all errands.** For any number of errands that have their turns in any order,
with credentials and a session file that can be read and written:
* if the server refuses the token that was stored at first, and answers every login with another
  token, which it accepts, which does not expire and which a header can hold, then at most one login
  is made; whichever errand has ended has brought what was asked for, and none sends its call more
  than twice; when all have ended one login has been made, and its token is the stored one; and all
  end, if they have their turns in rounds, at the latest after seven rounds for each of them;
* if a token is stored that does not expire and that the server does not refuse, nobody logs in and
  the session file stays as it is. -/
theorem one_login_for_all (client : Client) (slot : SessionSlot) (es : List Errand)
    (ts : List (Nat × Turn)) :
    let vs := (Traffic.starting slot es).visits client ts
    let traffic := (Traffic.starting slot es).run client ts
    (client.credentials.isSome → slot.IsUsable → Obliging client slot vs →
        Sendable client slot vs →
      vs.countP (·.logsIn client) ≤ 1 ∧
        (∀ (e : Errand) (result : Except SourceError e.Received),
          ⟨e, .ended result⟩ ∈ traffic.errands → ∃ received, result = .ok received) ∧
        (∀ i, vs.countP (fun v => v.place = i && v.asks client) ≤ 2) ∧
        (es ≠ [] → traffic.IsOver → vs.countP (·.logsIn client) = 1 ∧
          ∃ token, brought client vs = [token] ∧ traffic.shared.slot.load = some token) ∧
        ∀ rounds : List (List (Nat × Turn)), ts = rounds.flatten →
          7 * es.length ≤ rounds.length →
          (∀ r ∈ rounds, ∀ i < es.length, i ∈ r.map Prod.fst) → traffic.IsOver) ∧
      ∀ token, slot.load = some token → (∀ v ∈ vs, v.IsAccepting client token) →
        (∀ v ∈ vs, v.logsIn client = false) ∧ traffic.shared.slot = slot := by
  intro vs traffic
  constructor
  · intro hc husable hobliging hsendable
    have hphase : Phase slot traffic (vs.countP (·.logsIn client)) (brought client vs) :=
      phase_run client slot es ts fun v hv =>
        { hobliging.each v hv with
          credentials := hc
          usable := husable
          differs := hobliging.differs
          stored := hsendable.stored v hv
          sendable := hsendable.brought }
    refine ⟨hphase.le_one, fun e result hmem => hphase.exists_ok hmem,
      Traffic.countP_asks_le_two client slot es ts, fun hne hover => hphase.of_isOver hover ?_, ?_⟩
    · have hlength : traffic.errands.length = es.length :=
        (Traffic.length_run client ts _).trans (List.length_map _)
      rw [← List.length_pos_iff] at hne ⊢
      rwa [hlength]
    · rintro rounds rfl hlength hrounds
      exact Traffic.isOver_run_flatten client slot es hlength hrounds
  · intro token hload haccepting
    have hstages : (Traffic.starting slot es).Forall fun _ _ stage => stage.IsContent token :=
      fun _ _ _ hj => (Traffic.eq_starting_of_getElem? hj).symm ▸ .starting
    obtain ⟨hno, hshared⟩ := forall_logsIn_eq_false ts hstages hload haccepting
    exact ⟨hno, congrArg Shared.slot hshared⟩

/-! ### Visits together -/

instance : Decidable (v.IsObliging client slot tokens) :=
  decidable_of_iff _ (v.isObliging_iff client slot tokens).symm

instance {vs : List Visit} : Decidable (Obliging client slot vs) :=
  decidable_of_iff _ (obliging_iff client slot vs).symm

instance {vs : List Visit} : Decidable (Sendable client slot vs) :=
  decidable_of_iff _ (sendable_iff client slot vs).symm

instance : Decidable (v.IsAccepting client token) :=
  decidable_of_iff _ (v.isAccepting_iff client token).symm

/-- A session file with a token. -/
def holding (token : String) : SessionSlot :=
  .file (some (String.ofList (SessionSlot.contentOf token).written).toUTF8)

/-- Turns of errands at their places, at the epoch. -/
def answered (xs : List (Nat × Answer)) : List (Nat × Turn) :=
  xs.map fun (place, answer) => (place, ⟨.epoch, answer⟩)

/-- Two errands are refused the first token. One logs in while the other waits, and both ask once
more with the second token. -/
def sharedVisit : List (Nat × Turn) :=
  answered [(0, .unreachable), (1, .unreachable), (0, .reply 401 ""), (1, .reply 403 ""),
    (0, .unreachable), (1, .unreachable), (0, granted secondToken), (1, .unreachable),
    (1, .reply 200 "[]"), (0, .reply 200 "[]")]

/-- Two errands ask with the first token. -/
def quietVisit : List (Nat × Turn) :=
  answered [(1, .unreachable), (0, .unreachable), (0, .reply 200 "[]"), (1, .reply 500 "")]

/-- One login is made for both errands, and none if the server does not refuse the first token. -/
theorem one_login_for_all_visits :
    let start := Traffic.starting (holding firstToken) [.devices, .tasks]
    let shared := start.visits visitor sharedVisit
    let quiet := start.visits visitor quietVisit
    (visitor.credentials.isSome ∧ (holding firstToken).IsUsable ∧
        Obliging visitor (holding firstToken) shared ∧
        Sendable visitor (holding firstToken) shared ∧
        (start.run visitor sharedVisit).IsOver ∧ shared.countP (·.logsIn visitor) = 1) ∧
      (holding firstToken).load = some firstToken ∧
        (∀ v ∈ quiet, v.IsAccepting visitor firstToken) ∧ ∀ v ∈ quiet, v.logsIn visitor = false := by
  intro start shared quiet
  -- All that has to be evaluated is evaluated at once, since it takes the same steps.
  have hevaluated : (Obliging visitor (holding firstToken) shared ∧
      Sendable visitor (holding firstToken) shared ∧ (start.run visitor sharedVisit).rank = 0) ∧
      ∀ v ∈ quiet, v.IsAccepting visitor firstToken := by
    decide +kernel
  obtain ⟨⟨hobliging, hsendable, hrank⟩, haccepting⟩ := hevaluated
  have hover : (start.run visitor sharedVisit).IsOver := Traffic.isOver_of_rank_eq_zero hrank
  have hload : (holding firstToken).load = some firstToken :=
    SessionSlot.load_of_text? (Json.fromUTF8?_toUTF8 _)
  obtain ⟨-, -, -, hone, -⟩ :=
    (one_login_for_all visitor (holding firstToken) [.devices, .tasks] sharedVisit).1 rfl trivial
      hobliging hsendable
  obtain ⟨hno, -⟩ :=
    (one_login_for_all visitor (holding firstToken) [.devices, .tasks] quietVisit).2 firstToken hload
      haccepting
  exact ⟨⟨rfl, trivial, hobliging, hsendable, hover, (hone (List.cons_ne_nil _ _) hover).1⟩, hload,
    haccepting, hno⟩

/-- A token that no header can hold. -/
def brokenToken : String :=
  firstToken ++ "\x01"

/-- What is wrong with the outcomes of errands that have ended, if anything is. -/
def Traffic.failures (traffic : Traffic) : List (Option (Option SourceError)) :=
  traffic.errands.map fun errand => errand.2.result?.map SourceError.ofAnswer?

/-- An errand cannot ask with a stored token of that kind. -/
def stoppedVisit : List (Nat × Turn) :=
  answered [(0, .unreachable)]

/-- An errand cannot ask with a token of that kind that a login has brought. -/
def stoppedLater : List (Nat × Turn) :=
  answered [(0, .unreachable), (0, .unreachable), (0, granted brokenToken)]

/-- If no header can hold the stored token, or the one that the login has brought, an errand fails
without asking, whatever the server would do. -/
theorem exists_failures_of_obliging :
    let stopped := Traffic.starting (holding brokenToken) [.devices]
    let later := Traffic.starting (.file none) [.devices]
    visitor.credentials.isSome ∧
      ((holding brokenToken).IsUsable ∧
        (holding brokenToken).validToken .epoch = some brokenToken ∧
        Obliging visitor (holding brokenToken) (stopped.visits visitor stoppedVisit) ∧
        (stopped.run visitor stoppedVisit).failures =
          [some (some (.transport "builder error"))] ∧
        (stopped.visits visitor stoppedVisit).countP (·.logsIn visitor) = 0) ∧
      (SessionSlot.file none).IsUsable ∧
        Obliging visitor (.file none) (later.visits visitor stoppedLater) ∧
        (later.run visitor stoppedLater).failures = [some (some (.transport "builder error"))] :=
  ⟨rfl, ⟨trivial, by decide +kernel⟩, trivial, by decide +kernel⟩

end Household.Remote
