import Mathlib.Data.List.Induction
import Household.Proofs.Alarm.Handling

/-!
# The Dispatcher of Fired Alarms

The dispatcher takes the ids of fired alarms from a channel, one at a turn, and handles each of
them. It waits while the channel is empty and someone can still send, and ends when nobody can.
Every turn has a clock of its own, and the store can fail at some turns and answer at others.

A failure costs only the id that it hits. What is shown and what the scheduler is told is put
together from what every id brings about on its own, and the store stays as it is.

## Main results

* `Hit.alone_report`: what an id brings about on its own.
* `kept_step`: what one move keeps up.
* `dispatch_handled`: what the dispatcher leaves behind is what `Firing.dispatch` does for the ids
  that it has handled.
* `run_turns`: turns handle the ids that wait, in their order.
* `served_run`: what holds of the dispatcher after any moves.
-/

namespace Household

/-- Every alarm in the store has an end. -/
def Store.HasEnds (store : Store) : Prop :=
  ∀ id a, store.load id = .ok (some a) → a.HasEnd

namespace Firing

/-! ### Hits -/

/-- What the handling of an id meets: the clock, and the error of the store if it fails this
time. -/
structure Moment where
  now : Instant
  trouble? : Option StoreError

/-- An id and the moment at which it is handled. -/
structure Hit where
  id : Int64
  moment : Moment

namespace Hit

/-- What the store answers when it is asked for the id. -/
def answer (store : Store) (h : Hit) : Except StoreError (Option Alarm) :=
  match h.moment.trouble? with
  | some e => .error e
  | none => store.load h.id

/-- What is found out about the id. -/
def finding (store : Store) (h : Hit) : Finding :=
  ⟨h.answer store, h.moment.now⟩

/-- What the handling of the id brings about on its own. -/
def report (zone : Zone) (store : Store) (h : Hit) : Report (Option Notice) :=
  handle zone (h.finding store)

end Hit

/-- What an id brings about on its own: the messages that are shown and the commands to the
scheduler. -/
inductive Alone (zone : Zone) (store : Store) (h : Hit) :
    List Message → List TimerCommand → Prop
  /-- The store fails. -/
  | failing {e : StoreError} (hanswer : h.answer store = .error e) : Alone zone store h [] []
  /-- There is no such alarm. -/
  | missing (hanswer : h.answer store = .ok none) : Alone zone store h [] []
  /-- The clock is before the start. -/
  | ahead {a : Alarm} (hanswer : h.answer store = .ok (some a))
      (hstart : h.moment.now < a.start) :
      Alone zone store h
        [(Notice.getReady a.deviceName
          (Notice.minutesOf (a.start.since h.moment.now).seconds)).message zone]
        [.schedule a.id a.start]
  /-- The clock is not before the start. -/
  | started {a : Alarm} {finish : Instant} (hanswer : h.answer store = .ok (some a))
      (hstart : a.start ≤ h.moment.now) (hfinish : a.endTime = .ok finish) :
      Alone zone store h [(Notice.startNow a.deviceName finish).message zone] []

namespace Hit

variable {zone : Zone} {store : Store} {h : Hit}

/-- What the store answers with is stored. -/
theorem load_of_answer {o : Option Alarm} (hanswer : h.answer store = .ok o) :
    store.load h.id = .ok o := by
  rw [answer] at hanswer
  split at hanswer
  · cases hanswer
  · exact hanswer

/-- Where every alarm has an end, the handling of an id does not go out of range. -/
theorem result_ne_range (hends : store.HasEnds) (zone : Zone) (h : Hit) (e : RangeError) :
    (h.report zone store).result ≠ .error (.range e) := by
  intro hresult
  obtain ⟨a, hloaded, -, hend⟩ := exists_of_result_eq_range hresult
  exact hend (hends h.id a (load_of_answer hloaded))

/-- Where every alarm has an end, each id brings about one of four things. -/
theorem alone_report (hends : store.HasEnds) (h : Hit) :
    Alone zone store h (h.report zone store).messages (h.report zone store).commands := by
  cases hanswer : h.answer store with
  | error e =>
    rw [report, handle, finding, hanswer]
    exact .failing hanswer
  | ok o =>
    cases o with
    | none =>
      rw [report, handle, finding, hanswer]
      exact .missing hanswer
    | some a =>
      have hloaded : (h.finding store).loaded = .ok (some a) := hanswer
      rcases lt_or_ge h.moment.now a.start with hstart | hstart
      · have hnow : (h.finding store).now < a.start := hstart
        rw [report, handle_of_loaded zone hloaded (forAlarm_eq_ok_iff.mpr (.inl ⟨hnow, rfl⟩)),
          if_pos hnow]
        exact .ahead hanswer hstart
      · have hnow : a.start ≤ (h.finding store).now := hstart
        obtain ⟨finish, hfinish⟩ := hends h.id a (load_of_answer hanswer)
        rw [report, handle_of_loaded zone hloaded
          (forAlarm_eq_ok_iff.mpr (.inr ⟨hnow, finish, hfinish, rfl⟩)), if_neg (not_lt.mpr hnow)]
        exact .started hanswer hstart hfinish

end Hit

/-! ### One id after the other -/

section Dispatch

variable {zone : Zone} {store : Store}

/-- If the first ids are handled to the end, one more is handled after them. -/
theorem dispatch_concat_of_ok {fs : List Finding} (h : (dispatch zone fs).result = .ok ())
    (f : Finding) :
    dispatch zone (fs ++ [f]) =
      ⟨(dispatch zone fs).messages ++ (handle zone f).messages,
        (dispatch zone fs).commands ++ (handle zone f).commands,
        match (handle zone f).result with
        | .error (.range e) => .error (.range e)
        | _ => .ok ()⟩ := by
  induction fs with
  | nil =>
    simp only [List.nil_append, dispatch, List.append_nil]
    cases (handle zone f).result with
    | ok _ => rfl
    | error e => cases e <;> rfl
  | cons g fs ih =>
    rw [dispatch] at h
    rw [List.cons_append, dispatch, dispatch]
    split
    · next e hresult =>
      rw [hresult] at h
      cases h
    · next hresult =>
      have hrest : (dispatch zone fs).result = .ok () := by
        split at h
        · cases h
        · exact h
      rw [ih hrest]
      simp

/-- **Where every alarm has an end, ids are handled one after the other as each of them is on its
own**, whatever ids there are and wherever the store fails. -/
theorem dispatch_findings (hends : store.HasEnds) (zone : Zone) (hs : List Hit) :
    dispatch zone (hs.map (·.finding store)) =
      ⟨hs.flatMap fun h => (h.report zone store).messages,
        hs.flatMap fun h => (h.report zone store).commands, .ok ()⟩ := by
  induction hs with
  | nil => rfl
  | cons h hs ih =>
    have hrange := h.result_ne_range hends zone
    rw [List.map_cons, dispatch, ih]
    split
    · next e hresult => exact absurd hresult (hrange e)
    · rfl

end Dispatch

/-! ### The dispatcher -/

/-- A dispatcher with the channel that it takes ids from. -/
structure Dispatcher where
  store : Store
  /-- The ids that wait in the channel, the first one first. -/
  channel : List Int64
  /-- Someone can still send. -/
  isOpen : Bool
  /-- The ids that have been handled, in order. -/
  handled : List Hit
  messages : List Message
  commands : List TimerCommand
  /-- How it has ended, if it has. -/
  result? : Option (Except Failure Unit)

namespace Dispatcher

/-- What can happen next. -/
inductive Move
  /-- An alarm fires, and its id is sent. -/
  | send (id : Int64)
  /-- The last one who could send goes away. -/
  | close
  /-- The dispatcher has its turn. -/
  | turn (m : Moment)

/-- A dispatcher that has only been started. -/
def start (store : Store) : Dispatcher := ⟨store, [], true, [], [], [], none⟩

/-- The first id of the channel is handled. -/
def take (zone : Zone) (d : Dispatcher) (h : Hit) (channel : List Int64) : Dispatcher :=
  let one := h.report zone d.store
  { d with
    channel
    handled := d.handled ++ [h]
    messages := d.messages ++ one.messages
    commands := d.commands ++ one.commands
    result? :=
      match one.result with
      | .error (.range e) => some (.error (.range e))
      | _ => none }

/-- One move. -/
def step (zone : Zone) (d : Dispatcher) : Move → Dispatcher
  | .send id => if d.isOpen then { d with channel := d.channel ++ [id] } else d
  | .close => { d with isOpen := false }
  | .turn m =>
    match d.result?, d.channel with
    | some _, _ => d
    | none, id :: channel => d.take zone ⟨id, m⟩ channel
    | none, [] => if d.isOpen then d else { d with result? := some (.ok ()) }

/-- Moves one after the other. -/
def run (zone : Zone) (d : Dispatcher) (ms : List Move) : Dispatcher :=
  ms.foldl (step zone) d

/-- The ids that are sent while someone can send. -/
def sent : List Move → List Int64
  | [] => []
  | .send id :: ms => id :: sent ms
  | .close :: _ => []
  | .turn _ :: ms => sent ms

/-- Someone can still send after these moves. -/
def leavesOpen : List Move → Bool
  | [] => true
  | .close :: _ => false
  | _ :: ms => leavesOpen ms

/-- What the dispatcher has left behind so far. -/
def report (d : Dispatcher) : Report Unit :=
  ⟨d.messages, d.commands, d.result?.getD (.ok ())⟩

variable {zone : Zone} {store : Store} {d : Dispatcher} {ms : List Move}

/-- Moves are made one list after the other. -/
theorem run_append (zone : Zone) (d : Dispatcher) (ms ms' : List Move) :
    d.run zone (ms ++ ms') = (d.run zone ms).run zone ms' :=
  List.foldl_append

/-- What one more move sends. -/
theorem sent_concat (ms : List Move) (m : Move) :
    sent (ms ++ [m]) = if leavesOpen ms then sent ms ++ sent [m] else sent ms := by
  induction ms with
  | nil => rfl
  | cons m' ms ih =>
    cases m' with
    | send id =>
      simp only [List.cons_append, sent, leavesOpen, ih]
      exact apply_ite _ _ _ _
    | close => rfl
    | turn _ => exact ih

/-- The channel is closed by the last one who goes away. -/
theorem leavesOpen_eq_false_iff : leavesOpen ms = false ↔ .close ∈ ms := by
  induction ms with
  | nil => simp [leavesOpen]
  | cons m ms ih =>
    cases m with
    | send id => simpa [leavesOpen] using ih
    | close => simp [leavesOpen]
    | turn _ => simpa [leavesOpen] using ih

/-- The channel is closed once it has been closed, or is closed now. -/
theorem leavesOpen_concat (ms : List Move) (m : Move) :
    leavesOpen (ms ++ [m]) = (leavesOpen ms && leavesOpen [m]) := by
  induction ms with
  | nil => rfl
  | cons m' ms ih =>
    cases m' with
    | send id => exact ih
    | close => rfl
    | turn _ => exact ih

/-! ### What a move keeps up -/

/-- What holds of a dispatcher after the moves since it was started. -/
structure Kept (zone : Zone) (store : Store) (ms : List Move) (d : Dispatcher) : Prop where
  store_eq : d.store = store
  isOpen_eq : d.isOpen = leavesOpen ms
  ids_eq : d.handled.map (·.id) ++ d.channel = sent ms
  dispatch_eq : dispatch zone (d.handled.map (·.finding store)) = d.report
  ended : d.result? = some (.ok ()) → d.isOpen = false ∧ d.channel = []

/-- An id that is sent joins those that wait, unless nobody can send. -/
theorem kept_send (hk : Kept zone store ms d) (id : Int64) :
    Kept zone store (ms ++ [.send id]) (d.step zone (.send id)) := by
  obtain ⟨hstore, hopen, hids, hdispatch, hended⟩ := hk
  have hsent := sent_concat ms (.send id)
  have hstill : leavesOpen (ms ++ [.send id]) = d.isOpen := by
    rw [leavesOpen_concat, ← hopen]
    exact Bool.and_true _
  rw [← hopen] at hsent
  rw [step]
  split
  · next hisOpen =>
    refine ⟨hstore, hstill.symm, ?_, hdispatch, fun h => ?_⟩
    · rw [hsent, if_pos hisOpen, ← hids, List.append_assoc]
      rfl
    · rw [(hended h).1] at hisOpen
      cases hisOpen
  · next hisOpen =>
    refine ⟨hstore, hstill.symm, ?_, hdispatch, hended⟩
    rw [hsent, if_neg hisOpen, hids]

/-- From now on nobody can send. -/
theorem kept_close (hk : Kept zone store ms d) :
    Kept zone store (ms ++ [.close]) (d.step zone .close) := by
  obtain ⟨hstore, hopen, hids, hdispatch, hended⟩ := hk
  refine ⟨hstore, ?_, ?_, hdispatch, fun h => ⟨rfl, (hended h).2⟩⟩
  · rw [leavesOpen_concat]
    exact (Bool.and_false _).symm
  · rw [sent_concat, sent, List.append_nil, ite_self]
    exact hids

/-- The first id that waits is handled after those that have been. -/
theorem kept_take (hk : Kept zone store ms d) (hgoing : d.result? = none) {h : Hit}
    {channel : List Int64} (hchannel : d.channel = h.id :: channel) :
    Kept zone store ms (d.take zone h channel) := by
  obtain ⟨hstore, hopen, hids, hdispatch, -⟩ := hk
  refine ⟨hstore, hopen, ?_, ?_, fun hend => ?_⟩
  · rw [← hids, hchannel]
    simp [take]
  · have hok : (dispatch zone (d.handled.map (·.finding store))).result = .ok () := by
      rw [hdispatch, report, hgoing]
      rfl
    rw [take, List.map_append, List.map_singleton, dispatch_concat_of_ok hok, hdispatch, hstore]
    simp only [report, Hit.report]
    cases (handle zone (h.finding store)).result with
    | ok _ => rfl
    | error e => cases e <;> rfl
  · rw [take] at hend
    dsimp only at hend
    split at hend
    · cases hend
    · cases hend

/-- At its turn the dispatcher handles an id, waits or ends. -/
theorem kept_turn (hk : Kept zone store ms d) (mo : Moment) :
    Kept zone store ms (d.step zone (.turn mo)) := by
  rw [step]
  split
  · exact hk
  · next hgoing hchannel => exact kept_take hk hgoing hchannel
  · next hgoing hchannel =>
    split
    · exact hk
    · next hisOpen =>
      obtain ⟨hstore, hopen, hids, hdispatch, -⟩ := hk
      refine ⟨hstore, hopen, hids, ?_, fun _ => ⟨by simpa using hisOpen, hchannel⟩⟩
      rw [hdispatch, report, report, hgoing]
      rfl

/-- **What one move keeps up.** -/
theorem kept_step (hk : Kept zone store ms d) (m : Move) :
    Kept zone store (ms ++ [m]) (d.step zone m) := by
  cases m with
  | send id => exact kept_send hk id
  | close => exact kept_close hk
  | turn mo =>
    have hsent : sent (ms ++ [.turn mo]) = sent ms := by
      rw [sent_concat, sent, sent, List.append_nil, ite_self]
    have hopen : leavesOpen (ms ++ [.turn mo]) = leavesOpen ms := by
      rw [leavesOpen_concat]
      exact Bool.and_true _
    obtain ⟨hstore, hisOpen, hids, hdispatch, hended⟩ := kept_turn hk mo
    exact ⟨hstore, hisOpen.trans hopen.symm, hids.trans hsent.symm, hdispatch, hended⟩

/-- **What any moves keep up.** -/
theorem kept_run (zone : Zone) (store : Store) (ms : List Move) :
    Kept zone store ms ((start store).run zone ms) := by
  induction ms using List.reverseRecOn with
  | nil => exact ⟨rfl, rfl, rfl, rfl, fun h => nomatch h⟩
  | append_singleton ms m ih =>
    rw [run_append]
    exact kept_step ih m

/-- **What the dispatcher leaves behind is what `Firing.dispatch` does** for the ids that it has
handled. -/
theorem dispatch_handled (zone : Zone) (store : Store) (ms : List Move) :
    dispatch zone (((start store).run zone ms).handled.map (·.finding store)) =
      ((start store).run zone ms).report :=
  (kept_run zone store ms).dispatch_eq

/-! ### Turns -/

/-- A dispatcher that has ended does nothing at its turns. -/
theorem run_turns_of_ended {r : Except Failure Unit} (h : d.result? = some r)
    (mos : List Moment) : d.run zone (mos.map .turn) = d := by
  induction mos with
  | nil => rfl
  | cons mo mos ih =>
    have hturn : d.step zone (.turn mo) = d := by rw [step, h]
    rw [List.map_cons, run, List.foldl_cons, hturn]
    exact ih

/-- **Turns handle the ids that wait, in their order**, and with one more turn the dispatcher has
ended if nobody can send. -/
theorem run_turns (hends : d.store.HasEnds) (hgoing : d.result? = none) {mos : List Moment}
    (hlength : d.channel.length ≤ mos.length) :
    (d.run zone (mos.map .turn)).handled = d.handled ++ List.zipWith Hit.mk d.channel mos ∧
      (d.isOpen = false → d.channel.length < mos.length →
        (d.run zone (mos.map .turn)).result? = some (.ok ())) := by
  induction mos generalizing d with
  | nil =>
    have hnil : d.channel = [] := List.length_eq_zero_iff.mp (Nat.le_zero.mp hlength)
    rw [hnil]
    exact ⟨(List.append_nil _).symm, fun _ h => absurd h (Nat.not_lt_zero _)⟩
  | cons mo mos ih =>
    rw [List.map_cons, run, List.foldl_cons, ← run]
    cases hchannel : d.channel with
    | nil =>
      by_cases hopen : d.isOpen
      · have hturn : d.step zone (.turn mo) = d := by
          rw [step, hgoing, hchannel]
          exact if_pos hopen
        rw [hturn]
        obtain ⟨hhandled, -⟩ := ih hends hgoing (hchannel ▸ Nat.zero_le _)
        refine ⟨by rw [hhandled, hchannel]; rfl, fun hclosed => ?_⟩
        rw [hopen] at hclosed
        cases hclosed
      · have hturn : d.step zone (.turn mo) = { d with result? := some (.ok ()) } := by
          rw [step, hgoing, hchannel]
          exact if_neg hopen
        rw [hturn, run_turns_of_ended rfl]
        exact ⟨(List.append_nil _).symm, fun _ _ => rfl⟩
    | cons id channel =>
      have hturn : d.step zone (.turn mo) = d.take zone ⟨id, mo⟩ channel := by
        rw [step, hgoing, hchannel]
      have hgoing' : (d.take zone ⟨id, mo⟩ channel).result? = none := by
        rw [take]
        dsimp only
        split
        · next e he => exact absurd he (Hit.result_ne_range hends zone _ e)
        · rfl
      rw [hchannel] at hlength
      obtain ⟨hhandled, hresult⟩ := ih (d := d.take zone ⟨id, mo⟩ channel) hends hgoing'
        (Nat.le_of_succ_le_succ hlength)
      rw [hturn]
      refine ⟨?_, fun hclosed hlt => hresult hclosed (Nat.lt_of_succ_lt_succ hlt)⟩
      rw [hhandled]
      simp [take]

/-! ### What a dispatcher has done -/

/-- What a dispatcher has done that was started on a store and has made these moves. -/
structure Served (zone : Zone) (store : Store) (ms : List Move) (d : Dispatcher) : Prop where
  /-- The ids that were sent are handled in their order, each of them once; the others wait. -/
  ids_eq : d.handled.map (·.id) ++ d.channel = sent ms
  /-- It only ends when the channel is closed and every id that was sent is handled. -/
  ended : ∀ r, d.result? = some r →
    r = .ok () ∧ .close ∈ ms ∧ d.handled.map (·.id) = sent ms
  /-- A turn for every id that waits handles them, each at the moment of its turn. -/
  turns : ∀ mos : List Moment, d.channel.length ≤ mos.length →
    (d.run zone (mos.map .turn)).handled = d.handled ++ List.zipWith Hit.mk d.channel mos
  /-- One turn more ends it once the channel is closed. -/
  ends : ∀ mos : List Moment, .close ∈ ms → d.channel.length < mos.length →
    (d.run zone (mos.map .turn)).result? = some (.ok ())
  /-- The messages are those that every id brings about on its own. -/
  messages_eq : d.messages = d.handled.flatMap fun h => (h.report zone store).messages
  /-- The commands are those that every id brings about on its own. -/
  commands_eq : d.commands = d.handled.flatMap fun h => (h.report zone store).commands
  /-- What an id brings about on its own. -/
  alone : ∀ h ∈ d.handled,
    Alone zone store h (h.report zone store).messages (h.report zone store).commands
  /-- The store is as it was. -/
  store_eq : d.store = store
  /-- All this is what the handling of these ids in one go leaves behind. -/
  dispatch_eq : dispatch zone (d.handled.map (·.finding store)) = ⟨d.messages, d.commands, .ok ()⟩

/-- **A dispatcher serves every id that is sent**, whatever ids are sent, whatever the clock is and
wherever the store fails.

* The ids are handled in the order in which they are sent, each exactly once, and as many turns as
  ids wait are enough.
* It ends only when nobody can send any more and every id is handled, and then it does end.
* What is shown and commanded is put together, in order, from what every id brings about on its own.
  A failure of the store brings about nothing, nor does an alarm that is gone. Before the start it
  is one message, and one timer set for the start; from the start on it is one message.
* The store stays as it is. -/
theorem served_run {store : Store} (hends : store.HasEnds) (zone : Zone) (ms : List Move) :
    Served zone store ms ((start store).run zone ms) := by
  obtain ⟨hstore, hopen, hids, hdispatch, hended⟩ := kept_run zone store ms
  generalize (start store).run zone ms = d at hstore hopen hids hdispatch hended ⊢
  have halone := dispatch_findings hends zone d.handled
  have hreport := hdispatch.symm.trans halone
  have hclosed : d.isOpen = false ↔ .close ∈ ms := by rw [hopen, leavesOpen_eq_false_iff]
  have hok : ∀ r, d.result? = some r → r = .ok () := by
    intro r hr
    have hresult := congrArg Report.result hreport
    rwa [report, hr] at hresult
  have hturns : ∀ mos : List Moment, d.channel.length ≤ mos.length →
      (d.run zone (mos.map .turn)).handled = d.handled ++ List.zipWith Hit.mk d.channel mos ∧
        (d.isOpen = false → d.channel.length < mos.length →
          (d.run zone (mos.map .turn)).result? = some (.ok ())) := by
    intro mos hlength
    cases hresult : d.result? with
    | none => exact run_turns (hstore ▸ hends) hresult hlength
    | some r =>
      obtain rfl := hok r hresult
      rw [run_turns_of_ended hresult, (hended hresult).2]
      exact ⟨(List.append_nil _).symm, fun _ _ => hresult⟩
  exact
    { ids_eq := hids
      ended := fun r hr => by
        obtain rfl := hok r hr
        obtain ⟨hnobody, hempty⟩ := hended hr
        rw [hempty, List.append_nil] at hids
        exact ⟨rfl, hclosed.mp hnobody, hids⟩
      turns := fun mos hlength => (hturns mos hlength).1
      ends := fun mos hclose hlength => (hturns mos hlength.le).2 (hclosed.mpr hclose) hlength
      messages_eq := congrArg Report.messages hreport
      commands_eq := congrArg Report.commands hreport
      alone := fun h _ => h.alone_report hends
      store_eq := hstore
      dispatch_eq := by
        rw [hdispatch]
        exact congrArg (Report.mk d.messages d.commands) (congrArg Report.result hreport) }

/-! ### A washer -/

/-- A washer that starts two hours after the epoch and runs for an hour. -/
def washer : Alarm :=
  ⟨100, "Washer",
    { Instant.epoch with
      second := 7200
      first_le := by decide
      le_last := by decide
      leap_last := by decide }, 3600000⟩

/-- The store keeps the washer and nothing else. -/
def washerStore : Store :=
  .memory (Table.empty.insert washer.id washer)

/-- The store fails when the washer fires, the next alarm is gone, and then the washer fires again
ahead of its start. -/
def washerMoves : List Move :=
  [.send 100, .send 404, .turn ⟨.epoch, some (.query .refused)⟩, .send 100, .turn ⟨.epoch, none⟩,
    .close, .turn ⟨.epoch, none⟩, .turn ⟨.epoch, none⟩]

/-- Of three ids that are sent one brings something about. -/
theorem served_washer :
    washerStore.HasEnds ∧
      Served .universal washerStore washerMoves ((start washerStore).run .universal washerMoves) ∧
      ((start washerStore).run .universal washerMoves).handled.map (·.id) = [100, 404, 100] ∧
      ((start washerStore).run .universal washerMoves).messages =
        [(Notice.getReady "Washer" 120).message .universal] ∧
      ((start washerStore).run .universal washerMoves).commands = [.schedule 100 washer.start] ∧
      ((start washerStore).run .universal washerMoves).result? = some (.ok ()) := by
  have hends : washerStore.HasEnds := by
    intro id a hload
    have hget := Except.ok.inj hload
    rw [Table.get?_insert] at hget
    split at hget
    · obtain rfl := Option.some.inj hget
      exact ⟨_, rfl⟩
    · cases hget
  exact ⟨hends, served_run hends .universal washerMoves, rfl, rfl, rfl, rfl⟩

end Dispatcher

end Firing

end Household
