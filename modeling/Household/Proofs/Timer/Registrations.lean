import Household.Proofs.Timer.Scheduling
import Mathlib.Data.List.Induction

/-!
# What Becomes of Registrations

Ids are registered and cancelled, tasks wake up and the clock is set, in whatever order. What is
sent follows from the history alone: a registration stands until its id is registered again or
cancelled, and it is alive as long as it stands and has not sent its id. A task that wakes up sends
exactly if its registration is alive and due by the clock at that moment.

## Main results

* `stands_append_singleton_iff`: how a move changes what stands.
* `Tracked.step`: one move keeps the scheduler in line with the history.
* `orderly_run`: what holds of the registrations after every sequence of moves.
* `exists_represents_run`: after every sequence of moves the scheduler is what timers are.
-/

namespace Household

namespace Scheduler

/-- What can happen to a scheduler. -/
inductive Move
  /-- An id is registered for an instant at a monotonic time. -/
  | schedule (id : Int64) (due : Instant) (elapsed : Int)
  /-- An id is cancelled. -/
  | cancel (id : Int64)
  /-- The task of a registration wakes up at a monotonic time. -/
  | wake (n : Nat) (elapsed : Int)
  /-- The clock is set or goes on. -/
  | clock (now : Instant)

/-- The id of which a move ends the registration, if there is one. -/
def Move.ends? : Move → Option Int64
  | .schedule id _ _ => some id
  | .cancel id => some id
  | _ => none

/-- An id on the channel, with the place of the registration that sent it and what the clock showed
to its task. -/
structure Sending where
  place : Nat
  id : Int64
  now : Instant

/-- A scheduler, the clock, and what has been sent so far. -/
structure Course where
  scheduler : Scheduler
  now : Instant
  sent : List Sending

namespace Course

/-- A scheduler without registrations. -/
def starting (longestNap : Span) (now : Instant) : Course := ⟨.idle longestNap, now, []⟩

/-- The course after one move. -/
def step (c : Course) : Move → Course
  | .schedule id due elapsed => { c with scheduler := c.scheduler.schedule id due elapsed }
  | .cancel id => { c with scheduler := c.scheduler.cancel id }
  | .wake n elapsed =>
    let (scheduler, id?) := c.scheduler.wake n elapsed c.now
    { c with scheduler, sent := c.sent ++ id?.toList.map (⟨n, ·, c.now⟩) }
  | .clock now => { c with now }

/-- The course after a sequence of moves. -/
def run (c : Course) (moves : List Move) : Course :=
  moves.foldl step c

/-- One more move. -/
theorem run_append_singleton (c : Course) (moves : List Move) (m : Move) :
    c.run (moves ++ [m]) = (c.run moves).step m := by
  rw [run, run, List.foldl_append, List.foldl_cons, List.foldl_nil]

/-- Tasks that wake up together do so one after the other. -/
theorem run_map_wake (c : Course) (ns : List Nat) (elapsed : Int) :
    (c.run (ns.map (.wake · elapsed))).scheduler = (wakeAll elapsed c.now c.scheduler ns).1 ∧
      (c.run (ns.map (.wake · elapsed))).sent.map Sending.id =
        c.sent.map Sending.id ++ (wakeAll elapsed c.now c.scheduler ns).2 := by
  induction ns generalizing c with
  | nil => exact ⟨rfl, (List.append_nil _).symm⟩
  | cons n ns ih =>
    obtain ⟨hscheduler, hsent⟩ := ih (c.step (.wake n elapsed))
    refine ⟨hscheduler, hsent.trans ?_⟩
    rw [step, List.map_append, List.map_map, wakeAll, List.append_assoc]
    exact congrArg (fun ids => _ ++ (ids ++ _)) (List.map_id _)

end Course

/-! ### The history -/

/-- The registrations that moves make, each with its id and instant. -/
def registered (moves : List Move) : List (Int64 × Instant) :=
  moves.filterMap fun
    | .schedule id due _ => some (id, due)
    | _ => none

/-- The registration at a place is of this id for this instant, and since it was made its id has
neither been registered again nor cancelled. -/
def Stands (moves : List Move) (n : Nat) (id : Int64) (due : Instant) : Prop :=
  ∃ before elapsed after, moves = before ++ .schedule id due elapsed :: after ∧
    (registered before).length = n ∧ ∀ m ∈ after, m.ends? ≠ some id

variable {moves : List Move} {m : Move} {n : Nat} {id : Int64} {due : Instant}

/-- **How a move changes what stands**: it ends what stands of its id, and a registration stands
from then on. -/
theorem stands_append_singleton_iff : Stands (moves ++ [m]) n id due ↔
    (∃ elapsed, m = .schedule id due elapsed ∧ n = (registered moves).length) ∨
      (m.ends? ≠ some id ∧ Stands moves n id due) := by
  constructor
  · rintro ⟨before, elapsed, after, heq, hlen, hafter⟩
    rcases List.eq_nil_or_concat after with rfl | ⟨after', m', rfl⟩
    · obtain ⟨rfl, hm⟩ := List.append_inj' heq rfl
      exact .inl ⟨elapsed, List.singleton_inj.mp hm, hlen.symm⟩
    · rw [List.concat_eq_append, ← List.cons_append, ← List.append_assoc] at heq
      obtain ⟨rfl, hm⟩ := List.append_inj' heq rfl
      obtain rfl := List.singleton_inj.mp hm
      rw [List.concat_eq_append, List.forall_mem_append] at hafter
      exact .inr ⟨hafter.2 m (by simp), before, elapsed, after', rfl, hlen, hafter.1⟩
  · rintro (⟨elapsed, rfl, rfl⟩ | ⟨hm, before, elapsed, after, rfl, hlen, hafter⟩)
    · exact ⟨moves, elapsed, [], rfl, rfl, List.forall_mem_nil _⟩
    · refine ⟨before, elapsed, after ++ [m], by rw [List.append_assoc, List.cons_append], hlen, ?_⟩
      rw [List.forall_mem_append]
      exact ⟨hafter, by simpa using hm⟩

/-- What stands is what was registered at its place. -/
theorem Stands.getElem?_registered (h : Stands moves n id due) :
    (registered moves)[n]? = some (id, due) := by
  obtain ⟨before, elapsed, after, rfl, rfl, -⟩ := h
  rw [registered, List.filterMap_append, ← registered, List.getElem?_append_right (Nat.le_refl _),
    Nat.sub_self]
  rfl

/-- What stands was registered. -/
theorem Stands.lt_length (h : Stands moves n id due) : n < (registered moves).length :=
  (List.getElem?_eq_some_iff.mp h.getElem?_registered).1

/-- There is one registration more after an id was registered, and no other move changes what was
registered. -/
theorem length_registered_append_singleton (moves : List Move) (m : Move) :
    (registered (moves ++ [m])).length =
      (registered moves).length + match m with | .schedule _ _ _ => 1 | _ => 0 := by
  rw [registered, registered, List.filterMap_append, List.length_append]
  cases m <;> rfl

/-- **What was replaced or cancelled does not stand again.** -/
theorem Stands.not_stands_append (h : Stands moves n id due) (hm : m.ends? = some id)
    (after : List Move) (id' : Int64) (due' : Instant) :
    ¬ Stands (moves ++ m :: after) n id' due' := by
  have hlt : ∀ after, n < (registered (moves ++ after)).length := fun after => by
    rw [registered, List.filterMap_append, List.length_append]
    exact Nat.lt_of_lt_of_le h.lt_length (Nat.le_add_right _ _)
  -- By induction on what comes after, since a standing registration is told by the last move.
  induction after using List.reverseRecOn generalizing id' due' with
  | nil =>
    intro hstands
    rcases stands_append_singleton_iff.mp hstands with ⟨-, -, heq⟩ | ⟨hends, hold⟩
    · exact Nat.ne_of_lt h.lt_length heq
    · have hsame := h.getElem?_registered.symm.trans hold.getElem?_registered
      simp only [Option.some.injEq, Prod.mk.injEq] at hsame
      exact hends (hsame.1 ▸ hm)
  | append_singleton after m' ih =>
    intro hstands
    rw [← List.cons_append, ← List.append_assoc] at hstands
    rcases stands_append_singleton_iff.mp hstands with ⟨-, -, heq⟩ | ⟨-, hold⟩
    · exact Nat.ne_of_lt (hlt (m :: after)) heq
    · exact ih id' due' hold

/-- A registration stands and has not sent its id. -/
def Alive (start : Course) (moves : List Move) (n : Nat) (id : Int64) (due : Instant) : Prop :=
  Stands moves n id due ∧ ∀ x ∈ (start.run moves).sent, x.place ≠ n

/-! ### The scheduler and the history -/

/-- The scheduler after some moves is in line with what they did: what naps is alive, and what has
been sent was sent once, by a registration that was made. -/
structure Tracked (start : Course) (moves : List Move) : Prop where
  sound : (start.run moves).scheduler.Sound
  length : (start.run moves).scheduler.registrations.length = (registered moves).length
  naps : ∀ n id due,
    (∃ wakes, (start.run moves).scheduler.Naps n id due wakes) ↔ Alive start moves n id due
  made : ∀ x ∈ (start.run moves).sent, x.place < (registered moves).length
  once : ((start.run moves).sent.map Sending.place).Nodup

variable {start : Course}

/-- Nothing is sent by a registration that is still to be made. -/
theorem Tracked.place_ne_length (h : Tracked start moves) :
    ∀ x ∈ (start.run moves).sent, x.place ≠ (registered moves).length :=
  fun x hx => Nat.ne_of_lt (h.made x hx)

/-- A move after which nothing more has been sent leaves alive what it does not end, and a
registration is alive when it is made. -/
theorem Tracked.alive_append_singleton_iff (h : Tracked start moves)
    (hsent : ((start.run moves).step m).sent = (start.run moves).sent) :
    Alive start (moves ++ [m]) n id due ↔
      (∃ elapsed, m = .schedule id due elapsed ∧ n = (registered moves).length) ∨
        (m.ends? ≠ some id ∧ Alive start moves n id due) := by
  rw [Alive, stands_append_singleton_iff, Course.run_append_singleton, hsent, or_and_right,
    and_assoc]
  refine or_congr (and_iff_left_of_imp ?_) Iff.rfl
  rintro ⟨elapsed, -, rfl⟩
  exact h.place_ne_length

/-- What a task sends that wakes up. -/
theorem mem_toList_map_iff {id? : Option Int64} {now : Instant} {x : Sending} :
    x ∈ id?.toList.map (⟨n, ·, now⟩) ↔ x.place = n ∧ x.now = now ∧ id? = some x.id := by
  rw [List.mem_map]
  constructor
  · rintro ⟨id, hid, rfl⟩
    exact ⟨rfl, rfl, by simpa using hid⟩
  · rintro ⟨rfl, rfl, rfl⟩
    exact ⟨x.id, by simp, rfl⟩

/-- What one move sends: the id of a registration that is alive and due by the clock, when its task
wakes up. -/
theorem Tracked.wake_snd_eq_some_iff (h : Tracked start moves) {elapsed : Int} :
    ((start.run moves).scheduler.wake n elapsed (start.run moves).now).2 = some id ↔
      ∃ due, Alive start moves n id due ∧ (due.since (start.run moves).now).nanos ≤ 0 := by
  rw [Scheduler.wake_snd_eq_some_iff]
  simp only [← h.naps]
  exact ⟨fun ⟨due, wakes, hnaps, hdue⟩ => ⟨due, ⟨wakes, hnaps⟩, hdue⟩,
    fun ⟨due, ⟨wakes, hnaps⟩, hdue⟩ => ⟨due, wakes, hnaps, hdue⟩⟩

/-- Registering an id keeps the scheduler in line with the history. -/
theorem Tracked.schedule (h : Tracked start moves) (id : Int64) (due : Instant) (elapsed : Int) :
    Tracked start (moves ++ [.schedule id due elapsed]) := by
  have hrun := Course.run_append_singleton start moves (.schedule id due elapsed)
  have hlen := length_registered_append_singleton moves (.schedule id due elapsed)
  refine ⟨?_, ?_, fun n id' due' => ?_, ?_, ?_⟩
  · rw [hrun]
    exact h.sound.schedule id due elapsed
  · rw [hrun, hlen, ← h.length]
    exact length_schedule ..
  · rw [h.alive_append_singleton_iff rfl, hrun, ← h.naps]
    simp only [Course.step, naps_schedule_iff h.sound, h.length, Move.ends?, Move.schedule.injEq,
      ne_eq, Option.some.injEq]
    constructor
    · rintro ⟨wakes, ⟨hn, rfl, rfl, rfl⟩ | ⟨hid, hnaps⟩⟩
      · exact .inl ⟨wakes, ⟨rfl, rfl, rfl⟩, hn⟩
      · exact .inr ⟨Ne.symm hid, wakes, hnaps⟩
    · rintro (⟨wakes, ⟨rfl, rfl, rfl⟩, hn⟩ | ⟨hid, wakes, hnaps⟩)
      · exact ⟨elapsed, .inl ⟨hn, rfl, rfl, rfl⟩⟩
      · exact ⟨wakes, .inr ⟨Ne.symm hid, hnaps⟩⟩
  · rw [hrun, hlen]
    exact fun x hx => Nat.lt_succ_of_lt (h.made x hx)
  · rw [hrun]
    exact h.once

/-- Cancelling an id keeps the scheduler in line with the history. -/
theorem Tracked.cancel (h : Tracked start moves) (id : Int64) :
    Tracked start (moves ++ [.cancel id]) := by
  have hrun := Course.run_append_singleton start moves (.cancel id)
  have hlen := length_registered_append_singleton moves (.cancel id)
  refine ⟨?_, ?_, fun n id' due => ?_, ?_, ?_⟩
  · rw [hrun]
    exact h.sound.cancel id
  · rw [hrun, hlen, Nat.add_zero, ← h.length]
    exact length_cancel ..
  · rw [h.alive_append_singleton_iff rfl, hrun, ← h.naps]
    simp [Course.step, naps_cancel_iff h.sound, Move.ends?, eq_comm]
  · rw [hrun, hlen]
    exact h.made
  · rw [hrun]
    exact h.once

/-- Setting the clock keeps the scheduler in line with the history. -/
theorem Tracked.clock (h : Tracked start moves) (now : Instant) :
    Tracked start (moves ++ [.clock now]) := by
  have hrun := Course.run_append_singleton start moves (.clock now)
  have hlen := length_registered_append_singleton moves (.clock now)
  refine ⟨?_, ?_, fun n id due => ?_, ?_, ?_⟩
  · rw [hrun]
    exact h.sound
  · rw [hrun, hlen]
    exact h.length
  · rw [h.alive_append_singleton_iff rfl, hrun, ← h.naps]
    simp [Course.step, Move.ends?]
  · rw [hrun, hlen]
    exact h.made
  · rw [hrun]
    exact h.once

/-- When a task wakes up, what is alive stays alive, unless it is its own registration and due. -/
theorem Tracked.alive_wake_iff (h : Tracked start moves) {k : Nat} {elapsed : Int} :
    Alive start (moves ++ [.wake k elapsed]) n id due ↔
      Alive start moves n id due ∧ ¬ (n = k ∧ (due.since (start.run moves).now).nanos ≤ 0) := by
  have hstands : Stands (moves ++ [.wake k elapsed]) n id due ↔ Stands moves n id due := by
    simp [stands_append_singleton_iff, Move.ends?]
  rw [Alive, hstands, Course.run_append_singleton, Course.step, List.forall_mem_append,
    ← and_assoc]
  refine and_congr_right fun halive => ?_
  obtain ⟨wakes, hnaps⟩ := (h.naps n id due).mpr halive
  by_cases heq : n = k
  · subst heq
    rw [hnaps.wake_snd_eq]
    split
    · next hdue => simp [hdue]
    · next hdue => simp [hdue]
  · simp [heq, Ne.symm heq]

/-- A task that wakes up keeps the scheduler in line with the history. -/
theorem Tracked.wake (h : Tracked start moves) (n : Nat) (elapsed : Int) :
    Tracked start (moves ++ [.wake n elapsed]) := by
  have hrun := Course.run_append_singleton start moves (.wake n elapsed)
  have hlen := length_registered_append_singleton moves (.wake n elapsed)
  refine ⟨?_, ?_, fun k id due => ?_, ?_, ?_⟩
  · rw [hrun]
    exact h.sound.wake n elapsed _
  · rw [hrun, hlen, Nat.add_zero, ← h.length]
    exact length_wake ..
  · rw [h.alive_wake_iff, ← h.naps, hrun]
    exact exists_naps_wake_iff
  · rw [hrun, hlen, Course.step, List.forall_mem_append]
    refine ⟨h.made, fun x hx => ?_⟩
    obtain ⟨rfl, -, hsent⟩ := mem_toList_map_iff.mp hx
    obtain ⟨due, halive, -⟩ := h.wake_snd_eq_some_iff.mp hsent
    exact halive.1.lt_length
  · rw [hrun, Course.step, List.map_append]
    cases hsent : ((start.run moves).scheduler.wake n elapsed (start.run moves).now).2 with
    | none => simpa using h.once
    | some id =>
      obtain ⟨due, halive, -⟩ := h.wake_snd_eq_some_iff.mp hsent
      refine List.nodup_append.mpr ⟨h.once, by simp, ?_⟩
      simpa using halive.2

/-- **One move keeps the scheduler in line with the history.** -/
theorem Tracked.step (h : Tracked start moves) (m : Move) : Tracked start (moves ++ [m]) := by
  cases m with
  | schedule id due elapsed => exact h.schedule id due elapsed
  | cancel id => exact h.cancel id
  | wake n elapsed => exact h.wake n elapsed
  | clock now => exact h.clock now

/-- **After all moves the scheduler is in line with the history.** -/
theorem tracked_run (longestNap : Span) (now : Instant) (moves : List Move) :
    Tracked (.starting longestNap now) moves := by
  induction moves using List.reverseRecOn with
  | nil =>
    refine ⟨sound_idle longestNap, rfl, fun n id due => ⟨nofun, ?_⟩, List.forall_mem_nil _,
      List.nodup_nil⟩
    rintro ⟨⟨before, elapsed, after, heq, -⟩, -⟩
    exact absurd heq.symm (List.append_ne_nil_of_right_ne_nil _ (List.cons_ne_nil _ _))
  | append_singleton moves m ih => exact ih.step m

/-! ### What holds of the registrations -/

/-- What holds of the registrations after some moves, whatever they are. -/
structure Orderly (start : Course) (moves : List Move) : Prop where
  /-- The next move sends the id of a registration that is alive and due by the clock, if it is
  the one whose task wakes up, and nothing else. -/
  sends : ∀ m, ∃ sent, ((start.run moves).step m).sent = (start.run moves).sent ++ sent ∧
    ∀ x, x ∈ sent ↔ (∃ elapsed, m = .wake x.place elapsed) ∧ x.now = (start.run moves).now ∧
      ∃ due, Alive start moves x.place x.id due ∧ (due.since x.now).nanos ≤ 0
  /-- No registration has sent its id twice. -/
  once : ((start.run moves).sent.map Sending.place).Nodup
  /-- A registration that was replaced or cancelled while it was alive has not sent its id. -/
  ended : ∀ before m after, moves = before ++ m :: after → ∀ n id due,
    Alive start before n id due → m.ends? = some id → ∀ x ∈ (start.run moves).sent, x.place ≠ n
  /-- Registering or cancelling an id leaves alive the registrations of other ids that were. -/
  others : ∀ m id, m.ends? = some id → ∀ n id' due, id' ≠ id →
    (Alive start (moves ++ [m]) n id' due ↔ Alive start moves n id' due)
  /-- A move that does not end the registration of an id, and does not wake its task up, leaves the
  task as it is. -/
  apart : ∀ m n r, (start.run moves).scheduler.registrations[n]? = some r → m.ends? ≠ some r.id →
    (∀ elapsed, m ≠ .wake n elapsed) →
      ((start.run moves).step m).scheduler.registrations[n]? = some r
  /-- What is pending is the number of ids of which a registration is alive. -/
  pending : ∃ ids : List Int64, ids.Nodup ∧ (∀ id, id ∈ ids ↔ ∃ n due, Alive start moves n id due) ∧
    (start.run moves).scheduler.pending = ids.length

/-- Moves that end a registration send nothing. -/
theorem Course.sent_step_of_ends? (c : Course) (h : m.ends? = some id) :
    (c.step m).sent = c.sent := by
  cases m with
  | schedule => rfl
  | cancel => rfl
  | wake => cases h
  | clock => cases h

/-- What one move sends, in line with the history. -/
theorem Tracked.exists_sent_step (h : Tracked start moves) (m : Move) :
    ∃ sent, ((start.run moves).step m).sent = (start.run moves).sent ++ sent ∧
      ∀ x, x ∈ sent ↔ (∃ elapsed, m = .wake x.place elapsed) ∧ x.now = (start.run moves).now ∧
        ∃ due, Alive start moves x.place x.id due ∧ (due.since x.now).nanos ≤ 0 := by
  cases m with
  | wake n elapsed =>
    refine ⟨((start.run moves).scheduler.wake n elapsed (start.run moves).now).2.toList.map
      (⟨n, ·, (start.run moves).now⟩), rfl, fun x => ?_⟩
    rw [mem_toList_map_iff, h.wake_snd_eq_some_iff]
    constructor
    · rintro ⟨rfl, hnow, hdue⟩
      exact ⟨⟨elapsed, rfl⟩, hnow, hnow ▸ hdue⟩
    · rintro ⟨⟨elapsed', heq⟩, hnow, hdue⟩
      obtain ⟨rfl, -⟩ := Move.wake.inj heq
      exact ⟨rfl, hnow, hnow ▸ hdue⟩
  | _ => exact ⟨[], (List.append_nil _).symm, fun x => by simp⟩

/-- What was replaced or cancelled while it was alive has not sent its id. -/
theorem Tracked.place_ne_of_ended {before : List Move}
    (htracked : ∀ moves, Tracked start moves) (halive : Alive start before n id due)
    (hm : m.ends? = some id) (after : List Move) :
    ∀ x ∈ (start.run (before ++ m :: after)).sent, x.place ≠ n := by
  induction after using List.reverseRecOn with
  | nil =>
    rw [Course.run_append_singleton, Course.sent_step_of_ends? _ hm]
    exact halive.2
  | append_singleton after m' ih =>
    rw [← List.cons_append, ← List.append_assoc, Course.run_append_singleton]
    obtain ⟨sent, hsent, hiff⟩ := (htracked (before ++ m :: after)).exists_sent_step m'
    rw [hsent, List.forall_mem_append]
    refine ⟨ih, fun x hx => ?_⟩
    rintro rfl
    obtain ⟨-, -, due', halive', -⟩ := (hiff x).mp hx
    exact halive.1.not_stands_append hm after x.id due' halive'.1

/-- A move that neither ends a registration nor wakes its task up leaves it as it is. -/
theorem Tracked.getElem?_step (h : Tracked start moves) {r : Registration}
    (hr : (start.run moves).scheduler.registrations[n]? = some r) (hm : m.ends? ≠ some r.id)
    (hwake : ∀ elapsed, m ≠ .wake n elapsed) :
    ((start.run moves).step m).scheduler.registrations[n]? = some r := by
  cases m with
  | schedule id due elapsed =>
    exact getElem?_schedule_of_ne h.sound hr fun heq => hm (congrArg some heq.symm)
  | cancel id => exact getElem?_cancel_of_ne h.sound hr fun heq => hm (congrArg some heq.symm)
  | wake k elapsed =>
    exact (getElem?_wake_of_ne fun heq : n = k => hwake elapsed (by rw [heq])).trans hr
  | clock now => exact hr

/-- **After every sequence of moves** an id has been sent only by its latest registration, while it
was not cancelled and due by the clock, and at most once; and what is pending is the number of ids
of which the latest registration has neither been cancelled nor sent. -/
theorem orderly_run (longestNap : Span) (now : Instant) (moves : List Move) :
    Orderly (.starting longestNap now) moves := by
  have htracked := tracked_run longestNap now
  have h := htracked moves
  refine ⟨h.exists_sent_step, h.once, ?_, fun m id hm n id' due hid => ?_,
    fun m n r hr hm hwake => h.getElem?_step hr hm hwake, ?_⟩
  · rintro before m after rfl n id due halive hm
    exact Tracked.place_ne_of_ended htracked halive hm after
  · rw [h.alive_append_singleton_iff (Course.sent_step_of_ends? _ hm), hm, ne_eq, Option.some.injEq]
    constructor
    · rintro (⟨elapsed, rfl, -⟩ | ⟨-, halive⟩)
      · exact absurd (Option.some.inj hm) hid
      · exact halive
    · exact fun halive => .inr ⟨Ne.symm hid, halive⟩
  · obtain ⟨ids, hnodup, hids, hpending⟩ := h.sound.exists_ids
    refine ⟨ids, hnodup, fun id => ?_, hpending⟩
    simp only [hids, ← h.naps]

/-! ### The registrations and the timers -/

/-- The timers that a sequence of their operations leaves, and the ids that have fired. -/
inductive TimersReach (longestNap : Span) : Timers → List Int64 → Prop
  | idle : TimersReach longestNap (.idle longestNap) []
  | schedule {ts fired} (id : Int64) (due : Instant) (elapsed : Int) :
      TimersReach longestNap ts fired → TimersReach longestNap (ts.schedule id due elapsed) fired
  | cancel {ts fired} (id : Int64) :
      TimersReach longestNap ts fired → TimersReach longestNap (ts.cancel id) fired
  | look {ts fired} (elapsed : Int) (now : Instant) (id : Int64) :
      TimersReach longestNap ts fired → TimersReach longestNap (ts.look elapsed now id).1
        (if (ts.look elapsed now id).2 then fired ++ [id] else fired)

/-- **After every sequence of moves the scheduler is what timers are**, of which there is one for
each id: those that are left by operations that fire what was sent. -/
theorem exists_represents_run (longestNap : Span) (now : Instant) (moves : List Move) :
    ∃ ts, TimersReach longestNap ts
        (((Course.starting longestNap now).run moves).sent.map Sending.id) ∧
      ((Course.starting longestNap now).run moves).scheduler.Represents ts := by
  induction moves using List.reverseRecOn with
  | nil => exact ⟨_, .idle, represents_idle longestNap⟩
  | append_singleton moves m ih =>
    obtain ⟨ts, hreach, hrepresents⟩ := ih
    rw [Course.run_append_singleton]
    cases m with
    | schedule id due elapsed =>
      exact ⟨_, hreach.schedule id due elapsed, hrepresents.schedule id due elapsed⟩
    | cancel id => exact ⟨_, hreach.cancel id, hrepresents.cancel id⟩
    | clock now => exact ⟨ts, hreach, hrepresents⟩
    | wake n elapsed =>
      generalize (Course.starting longestNap now).run moves = c at hreach hrepresents ⊢
      by_cases hnaps : ∃ id due wakes, c.scheduler.Naps n id due wakes
      · obtain ⟨id, due, wakes, hnaps⟩ := hnaps
        obtain ⟨hstep, hsent⟩ := hrepresents.wake hnaps elapsed c.now
        refine ⟨_, ?_, hstep⟩
        have hlook := hreach.look elapsed c.now id
        rw [Course.step, List.map_append, hsent]
        cases hfired : (ts.look elapsed c.now id).2 with
        | true => simpa [hfired] using hlook
        | false => simpa [hfired] using hlook
      · have hwake : c.scheduler.wake n elapsed c.now = (c.scheduler, none) :=
          wake_of_forall_not_naps fun id due wakes h => hnaps ⟨id, due, wakes, h⟩
        rw [Course.step, hwake]
        exact ⟨ts, by simpa using hreach, hrepresents⟩

end Scheduler

end Household
