import Household.Proofs.Table
import Household.Timer.Scheduler

/-!
# One Timer for Each Id

The scheduler has tasks that have ended, and handles that lead to them, beside the tasks that nap.
What matters about it is which registrations nap: at most one of each id, to whose task its handle
leads. Each operation changes the napping registrations as the same operation changes timers of
which there is one for each id.

## Main results

* `naps_schedule_iff`, `naps_cancel_iff`, `naps_wake_iff`: what each operation does to the napping
  registrations.
* `Sound.exists_ids`: what is pending is the number of ids of which a registration naps.
* `Represents.schedule`, `Represents.cancel`, `Represents.wake`, `Represents.pending_eq`: the
  scheduler does what the timers do.
-/

namespace Household

/-! ### Timers that look at the clock -/

namespace Timers

variable {ts : Timers} {id id' : Int64} {due now : Instant} {elapsed wakes : Int}

/-- A look at the clock does not change the longest nap. -/
theorem longestNap_look (ts : Timers) (elapsed : Int) (now : Instant) (id : Int64) :
    (ts.look elapsed now id).1.longestNap = ts.longestNap := by
  rw [look]
  split
  · rfl
  · split <;> rfl

/-- A timer fires if it is due. -/
theorem look_snd (h : ts.waiting.get? id = some ⟨due, wakes⟩) :
    (ts.look elapsed now id).2 = decide ((due.since now).nanos ≤ 0) := by
  have hdue := nap?_eq_none_iff ts.longestNap due now
  rw [look, h]
  dsimp only
  cases hnap : nap? ts.longestNap due now with
  | none => exact (decide_eq_true (hdue.mp hnap)).symm
  | some d => exact (decide_eq_false fun hle => nomatch hnap.symm.trans (hdue.mpr hle)).symm

/-- A timer that looks at the clock naps on if it is not due, and the others wait as before. -/
theorem get?_look (h : ts.waiting.get? id = some ⟨due, wakes⟩) :
    (ts.look elapsed now id).1.waiting.get? id' =
      if id = id' then (nap? ts.longestNap due now).map fun d => ⟨due, elapsed + d.nanos⟩
      else ts.waiting.get? id' := by
  rw [look, h]
  dsimp only
  cases nap? ts.longestNap due now with
  | none => exact Table.get?_erase _ _ _
  | some d => exact Table.get?_insert _ _ _ _

end Timers

namespace Scheduler

variable {s : Scheduler} {n k : Nat} {id id' : Int64} {due due' now : Instant}
  {elapsed wakes : Int}

/-! ### Napping registrations -/

/-- The registration at a place is one of this id for this instant, and its task naps. -/
def Naps (s : Scheduler) (n : Nat) (id : Int64) (due : Instant) (wakes : Int) : Prop :=
  s.registrations[n]? = some ⟨id, due, .napping wakes⟩

/-- The id of the registration at a place. -/
def idAt? (s : Scheduler) (n : Nat) : Option Int64 :=
  s.registrations[n]?.map Registration.id

/-- Handles lead to registrations of their own ids, and one leads to each task that naps. -/
structure Sound (s : Scheduler) : Prop where
  own : ∀ {id n}, s.handles.get? id = some n → s.idAt? n = some id
  held : ∀ {n id due wakes}, s.Naps n id due wakes → s.handles.get? id = some n

/-- A napping registration has its id. -/
theorem Naps.idAt?_eq (h : s.Naps n id due wakes) : s.idAt? n = some id := by
  rw [idAt?, h, Option.map_some]

/-- A task that naps is not finished. -/
theorem Naps.isFinished_eq (h : s.Naps n id due wakes) : s.isFinished n = false :=
  isFinished_eq_false_iff.mpr ⟨id, due, wakes, h⟩

/-- At most one registration of each id naps. -/
theorem Sound.eq_of_naps (h : s.Sound) (hn : s.Naps n id due wakes) {wakes' : Int}
    (hk : s.Naps k id due' wakes') : n = k :=
  Option.some.inj ((h.held hn).symm.trans (h.held hk))

/-! ### Steps of the operations -/

/-- What is at a place after the task at a place was stopped. -/
theorem getElem?_abort (s : Scheduler) (k n : Nat) :
    (s.abort k).registrations[n]? =
      if k = n then s.registrations[n]?.map Registration.stop else s.registrations[n]? := by
  rw [abort, List.getElem?_modify]
  split <;> simp

/-- Stopping a task does not change whose registration it is. -/
theorem idAt?_abort (s : Scheduler) (k n : Nat) : (s.abort k).idAt? n = s.idAt? n := by
  rw [idAt?, idAt?, getElem?_abort]
  split
  · rw [Option.map_map]
    congr 1
    funext r
    rw [Function.comp_apply, Registration.stop]
    split <;> rfl
  · rfl

/-- A task that was stopped does not nap, and the others do as before. -/
theorem naps_abort_iff : (s.abort k).Naps n id due wakes ↔ n ≠ k ∧ s.Naps n id due wakes := by
  rw [Naps, getElem?_abort]
  split
  · next h =>
    subst h
    refine ⟨fun hstop => ?_, fun h => absurd rfl h.1⟩
    obtain ⟨r, -, hr⟩ := Option.map_eq_some_iff.mp hstop
    rw [Registration.stop] at hr
    split at hr
    · next hover => simp [hr, Registration.isOver] at hover
    · simp at hr
  · next h => exact ⟨fun hn => ⟨Ne.symm h, hn⟩, fun h => h.2⟩

/-- What is at a place after a task was started. -/
theorem getElem?_spawn (s : Scheduler) (id : Int64) (due : Instant) (elapsed : Int) (n : Nat) :
    (s.spawn id due elapsed).registrations[n]? =
      if n = s.registrations.length then some ⟨id, due, .napping elapsed⟩
      else s.registrations[n]? := by
  rw [spawn, List.getElem?_append]
  split
  · next hlt => rw [if_neg (Nat.ne_of_lt hlt)]
  · next hge =>
    split
    · next heq => simp [heq]
    · next hne =>
      rw [List.getElem?_eq_none (by rw [List.length_singleton]; omega),
        List.getElem?_eq_none (by omega)]

/-- A task that has been started naps, and the others do as before. -/
theorem naps_spawn_iff : (s.spawn id due elapsed).Naps n id' due' wakes ↔
    (n = s.registrations.length ∧ id' = id ∧ due' = due ∧ wakes = elapsed) ∨
      s.Naps n id' due' wakes := by
  rw [Naps, getElem?_spawn]
  split
  · next heq =>
    subst heq
    have hnone : ¬ s.Naps s.registrations.length id' due' wakes := by
      rw [Naps, List.getElem?_eq_none (Nat.le_refl _)]
      exact nofun
    simp only [hnone, Option.some.injEq, Registration.mk.injEq,
      Registration.Stage.napping.injEq, true_and, or_false]
    rw [eq_comm, eq_comm (a := due), eq_comm (a := elapsed)]
  · next hne => simp [Naps, hne]

/-- Starting a task does not change whose the registrations before are. -/
theorem idAt?_spawn (h : s.idAt? n = some id') : (s.spawn id due elapsed).idAt? n = some id' := by
  have hne : n ≠ s.registrations.length := fun heq => by
    rw [idAt?, heq, List.getElem?_eq_none (Nat.le_refl _)] at h
    cases h
  rwa [idAt?, getElem?_spawn, if_neg hne]

/-- What is at a place after it was changed where a task stands. -/
theorem getElem?_setStage (s : Scheduler) (k n : Nat) (stage : Registration.Stage) :
    (s.setStage k stage).registrations[n]? =
      if k = n then s.registrations[n]?.map ({ · with stage }) else s.registrations[n]? := by
  rw [setStage, List.getElem?_modify]
  split <;> simp

/-- Where a task stands does not change whose registration it is. -/
theorem idAt?_setStage (s : Scheduler) (k n : Nat) (stage : Registration.Stage) :
    (s.setStage k stage).idAt? n = s.idAt? n := by
  rw [idAt?, idAt?, getElem?_setStage]
  split
  · rw [Option.map_map]
    rfl
  · rfl

/-- Stopping a task does not change the handles. -/
theorem handles_abort (s : Scheduler) (k : Nat) : (s.abort k).handles = s.handles := rfl

/-- The handle that is put in is there, and the others are as before. -/
theorem get?_handles_enter (s : Scheduler) (id id' : Int64) (n : Nat) :
    (s.enter id n).handles.get? id' = if id = id' then some n else s.handles.get? id' := by
  rw [enter]
  split
  · rw [handles_abort, Table.get?_insert]
  · rw [Table.get?_insert]

/-- Putting in a handle ends the naps of the registration before, and of no other one. -/
theorem naps_enter_iff :
    (s.enter id k).Naps n id' due wakes ↔
      s.handles.get? id ≠ some n ∧ s.Naps n id' due wakes := by
  rw [enter]
  split
  · next previous hprevious =>
    rw [naps_abort_iff, hprevious, ne_eq, ne_eq, Option.some.injEq, eq_comm]
    rfl
  · next hnone =>
    rw [hnone]
    exact (and_iff_right nofun).symm

/-- Putting in a handle does not change whose the registrations are. -/
theorem idAt?_enter (s : Scheduler) (id : Int64) (k n : Nat) :
    (s.enter id k).idAt? n = s.idAt? n := by
  rw [enter]
  split
  · rw [idAt?_abort]
    rfl
  · rfl

/-! ### What the operations do -/

/-- The handles after an id was registered: its own, and of those before the ones that lead to tasks
that have not ended. -/
theorem get?_handles_schedule (s : Scheduler) (id id' : Int64) (due : Instant) (elapsed : Int) :
    (s.schedule id due elapsed).handles.get? id' =
      if id = id' then some s.registrations.length
      else (s.handles.get? id').filter fun n => !(s.spawn id due elapsed).isFinished n := by
  rw [schedule, get?_handles_enter, purge, Table.get?_filter]
  rfl

/-- **A new registration naps**, in place of the one of the same id; those of other ids nap as
before. -/
theorem naps_schedule_iff (h : s.Sound) : (s.schedule id due elapsed).Naps n id' due' wakes ↔
    (n = s.registrations.length ∧ id' = id ∧ due' = due ∧ wakes = elapsed) ∨
      (id' ≠ id ∧ s.Naps n id' due' wakes) := by
  have hpurge : (s.spawn id due elapsed).purge.Naps n id' due' wakes ↔
      (s.spawn id due elapsed).Naps n id' due' wakes := Iff.rfl
  have hhandle : (s.spawn id due elapsed).purge.handles.get? id = some n ↔
      s.handles.get? id = some n ∧ (s.spawn id due elapsed).isFinished n = false := by
    rw [purge, Table.get?_filter, Option.filter_eq_some_iff, Bool.not_eq_true']
    rfl
  rw [schedule, naps_enter_iff, hpurge, ne_eq, hhandle]
  constructor
  · rintro ⟨hother, hnaps⟩
    rcases naps_spawn_iff.mp hnaps with hnew | hold
    · exact .inl hnew
    · refine .inr ⟨?_, hold⟩
      rintro rfl
      exact hother ⟨h.held hold, hnaps.isFinished_eq⟩
  · rintro (hnew | ⟨hid, hold⟩)
    · refine ⟨fun hhandle => ?_, naps_spawn_iff.mpr (.inl hnew)⟩
      have hown := h.own hhandle.1
      rw [idAt?, hnew.1, List.getElem?_eq_none (Nat.le_refl _)] at hown
      cases hown
    · refine ⟨fun hhandle => hid ?_, naps_spawn_iff.mpr (.inr hold)⟩
      exact Option.some.inj (hold.idAt?_eq.symm.trans (h.own hhandle.1))

/-- **The registration of a cancelled id does not nap**; those of other ids nap as before. -/
theorem naps_cancel_iff (h : s.Sound) :
    (s.cancel id).Naps n id' due wakes ↔ id' ≠ id ∧ s.Naps n id' due wakes := by
  rw [cancel]
  split
  · next previous hprevious =>
    rw [naps_abort_iff]
    refine and_congr_left fun hnaps : s.Naps n id' due wakes => not_congr ⟨?_, ?_⟩
    · rintro rfl
      exact Option.some.inj (hnaps.idAt?_eq.symm.trans (h.own hprevious))
    · rintro rfl
      exact Option.some.inj ((h.held hnaps).symm.trans hprevious)
  · next hnone =>
    refine (and_iff_right_of_imp fun hnaps => ?_).symm
    rintro rfl
    rw [h.held hnaps] at hnone
    cases hnone

/-- A task that does not nap does not look at the clock. -/
theorem wake_of_forall_not_naps (h : ∀ id due wakes, ¬ s.Naps n id due wakes) :
    s.wake n elapsed now = (s, none) := by
  rw [wake]
  split
  · next id due wakes hget => exact absurd hget (h id due wakes)
  · rfl

/-- A task that naps and is due sends its id and ends. -/
theorem Naps.wake_of_due (h : s.Naps n id due wakes) (hd : nap? s.longestNap due now = none) :
    s.wake n elapsed now = (s.setStage n .sent, some id) := by
  rw [Naps] at h
  simp only [wake, h, hd]

/-- A task that naps and is not due naps again. -/
theorem Naps.wake_of_not_due (h : s.Naps n id due wakes) {d : Span}
    (hd : nap? s.longestNap due now = some d) :
    s.wake n elapsed now = (s.setStage n (.napping (elapsed + d.nanos)), none) := by
  rw [Naps] at h
  simp only [wake, h, hd]

/-- **A registration that naps sends its id if it is due.** -/
theorem Naps.wake_snd_eq (h : s.Naps n id due wakes) (elapsed : Int) (now : Instant) :
    (s.wake n elapsed now).2 = if (due.since now).nanos ≤ 0 then some id else none := by
  have hdue := nap?_eq_none_iff s.longestNap due now
  cases hd : nap? s.longestNap due now with
  | none => rw [h.wake_of_due hd, if_pos (hdue.mp hd)]
  | some d => rw [h.wake_of_not_due hd, if_neg fun hle => nomatch hd.symm.trans (hdue.mpr hle)]

/-- An id is sent by a registration of it that naps and is due, and by no other one. -/
theorem wake_snd_eq_some_iff : (s.wake n elapsed now).2 = some id ↔
    ∃ due wakes, s.Naps n id due wakes ∧ (due.since now).nanos ≤ 0 := by
  constructor
  · intro hsent
    by_cases hnaps : ∃ id due wakes, s.Naps n id due wakes
    · obtain ⟨id', due, wakes, hnaps⟩ := hnaps
      rw [hnaps.wake_snd_eq, Option.ite_none_right_eq_some, Option.some.injEq] at hsent
      obtain ⟨hdue, rfl⟩ := hsent
      exact ⟨due, wakes, hnaps, hdue⟩
    · rw [wake_of_forall_not_naps fun id due wakes h => hnaps ⟨id, due, wakes, h⟩] at hsent
      cases hsent
  · rintro ⟨due, wakes, hnaps, hdue⟩
    rw [hnaps.wake_snd_eq, if_pos hdue]

/-- Where the task of a napping registration stands after it was changed. -/
theorem naps_setStage_iff (hk : s.Naps k id due wakes) {stage : Registration.Stage}
    {wakes' : Int} : (s.setStage k stage).Naps n id' due' wakes' ↔
      (n ≠ k ∧ s.Naps n id' due' wakes') ∨
        (n = k ∧ id = id' ∧ due = due' ∧ stage = .napping wakes') := by
  rw [Naps, getElem?_setStage]
  split
  · next heq =>
    subst heq
    rw [hk]
    simp
  · next hne => simp [Naps, Ne.symm hne]

/-- **A task that looks at the clock naps on, if it is not due**; the others nap as before. -/
theorem naps_wake_iff : (s.wake k elapsed now).1.Naps n id due wakes ↔
    (n ≠ k ∧ s.Naps n id due wakes) ∨
      (n = k ∧ ∃ wakes' d, s.Naps n id due wakes' ∧ nap? s.longestNap due now = some d ∧
        wakes = elapsed + d.nanos) := by
  by_cases hnaps : ∃ id due wakes, s.Naps k id due wakes
  · obtain ⟨id', due', wakes', hk⟩ := hnaps
    have hiff : (n = k ∧ ∃ wakes' d, s.Naps n id due wakes' ∧ nap? s.longestNap due now = some d ∧
        wakes = elapsed + d.nanos) ↔ n = k ∧ id' = id ∧ due' = due ∧
          ∃ d, nap? s.longestNap due' now = some d ∧ wakes = elapsed + d.nanos := by
      refine and_congr_right fun heq => ⟨fun ⟨wakes', d, hn, hd⟩ => ?_, ?_⟩
      · have hsame := hk.symm.trans (heq ▸ hn)
        simp only [Option.some.injEq, Registration.mk.injEq] at hsame
        exact ⟨hsame.1, hsame.2.1, d, hsame.2.1 ▸ hd⟩
      · rintro ⟨rfl, rfl, d, hd⟩
        exact ⟨wakes', d, heq ▸ hk, hd⟩
    rw [hiff]
    cases hd : nap? s.longestNap due' now with
    | none =>
      rw [hk.wake_of_due hd]
      simp [naps_setStage_iff hk]
    | some d =>
      rw [hk.wake_of_not_due hd]
      simp [naps_setStage_iff hk, eq_comm]
  · rw [wake_of_forall_not_naps fun id due wakes h => hnaps ⟨id, due, wakes, h⟩]
    have hnot : ∀ wakes, ¬ s.Naps k id due wakes := fun wakes h => hnaps ⟨id, due, wakes, h⟩
    constructor
    · intro hn
      exact .inl ⟨fun heq => hnot wakes (heq ▸ hn), hn⟩
    · rintro (⟨-, hn⟩ | ⟨rfl, wakes', -, hn, -⟩)
      · exact hn
      · exact absurd hn (hnot wakes')

/-- After a look at the clock the same registrations nap, but for the one that looked if it was
due. -/
theorem exists_naps_wake_iff : (∃ wakes, (s.wake k elapsed now).1.Naps n id due wakes) ↔
    (∃ wakes, s.Naps n id due wakes) ∧ ¬ (n = k ∧ (due.since now).nanos ≤ 0) := by
  simp only [naps_wake_iff, ← nap?_eq_none_iff s.longestNap]
  by_cases heq : n = k
  · cases nap? s.longestNap due now <;> simp [heq]
  · simp [heq]

/-- What a look at the clock leaves as it is. -/
theorem wake_fst (s : Scheduler) (n : Nat) (elapsed : Int) (now : Instant) :
    (s.wake n elapsed now).1 = s ∨ ∃ stage, (s.wake n elapsed now).1 = s.setStage n stage := by
  rw [wake]
  split
  · split
    · exact .inr ⟨_, rfl⟩
    · exact .inr ⟨_, rfl⟩
  · exact .inl rfl

/-! ### Registrations of other ids -/

/-- Putting in a handle changes at most the registration to which the handle before led. -/
theorem getElem?_enter_of_ne (h : s.handles.get? id ≠ some n) :
    (s.enter id k).registrations[n]? = s.registrations[n]? := by
  rw [enter]
  split
  · next previous hprevious =>
    rw [getElem?_abort, if_neg fun heq : previous = n => h (heq ▸ hprevious)]
  · rfl

/-- Registering an id leaves the registrations of other ids as they are. -/
theorem getElem?_schedule_of_ne (h : s.Sound) {r : Registration}
    (hr : s.registrations[n]? = some r) (hid : r.id ≠ id) :
    (s.schedule id due elapsed).registrations[n]? = some r := by
  have hne : n ≠ s.registrations.length := fun heq => by
    rw [heq, List.getElem?_eq_none (Nat.le_refl _)] at hr
    cases hr
  have hother : (s.spawn id due elapsed).purge.handles.get? id ≠ some n := fun hhandle => by
    rw [purge, Table.get?_filter, Option.filter_eq_some_iff] at hhandle
    have hown := h.own hhandle.1
    rw [idAt?, hr] at hown
    exact hid (Option.some.inj hown)
  rw [schedule, getElem?_enter_of_ne hother]
  exact (getElem?_spawn s id due elapsed n).trans ((if_neg hne).trans hr)

/-- Cancelling an id leaves the registrations of other ids as they are. -/
theorem getElem?_cancel_of_ne (h : s.Sound) {r : Registration}
    (hr : s.registrations[n]? = some r) (hid : r.id ≠ id) :
    (s.cancel id).registrations[n]? = some r := by
  rw [cancel]
  split
  · next previous hprevious =>
    rw [getElem?_abort]
    split
    · next heq =>
      have hown := h.own hprevious
      rw [heq, idAt?, hr] at hown
      exact absurd (Option.some.inj hown) hid
    · exact hr
  · exact hr

/-- A look at the clock leaves the other registrations as they are. -/
theorem getElem?_wake_of_ne (h : n ≠ k) :
    (s.wake k elapsed now).1.registrations[n]? = s.registrations[n]? := by
  rcases wake_fst s k elapsed now with heq | ⟨stage, heq⟩
  · rw [heq]
  · rw [heq, getElem?_setStage, if_neg (Ne.symm h)]

/-! ### The number of registrations -/

/-- There is one registration more after an id was registered. -/
theorem length_schedule (s : Scheduler) (id : Int64) (due : Instant) (elapsed : Int) :
    (s.schedule id due elapsed).registrations.length = s.registrations.length + 1 := by
  have hspawn : (s.spawn id due elapsed).purge.registrations.length =
      s.registrations.length + 1 := List.length_append
  rw [schedule, enter]
  split
  · rw [abort, List.length_modify, hspawn]
  · exact hspawn

/-- There are as many registrations after an id was cancelled. -/
theorem length_cancel (s : Scheduler) (id : Int64) :
    (s.cancel id).registrations.length = s.registrations.length := by
  rw [cancel]
  split
  · rw [abort, List.length_modify]
  · rfl

/-- There are as many registrations after a look at the clock. -/
theorem length_wake (s : Scheduler) (n : Nat) (elapsed : Int) (now : Instant) :
    (s.wake n elapsed now).1.registrations.length = s.registrations.length := by
  rcases wake_fst s n elapsed now with heq | ⟨stage, heq⟩
  · rw [heq]
  · rw [heq, setStage, List.length_modify]

/-! ### Soundness -/

/-- Without registrations all handles are right. -/
theorem sound_idle (longestNap : Span) : (idle longestNap).Sound where
  own h := nomatch h
  held h := nomatch h

/-- The handles remain right when an id is registered. -/
theorem Sound.schedule (h : s.Sound) (id : Int64) (due : Instant) (elapsed : Int) :
    (s.schedule id due elapsed).Sound where
  own {id' n} hhandle := by
    rw [get?_handles_schedule] at hhandle
    rw [Scheduler.schedule, idAt?_enter]
    split at hhandle
    · next heq =>
      subst heq
      obtain rfl := Option.some.inj hhandle
      exact (naps_spawn_iff.mpr (.inl ⟨rfl, rfl, rfl, rfl⟩)).idAt?_eq
    · exact idAt?_spawn (h.own (Option.filter_eq_some_iff.mp hhandle).1)
  held {n id' due' wakes} hnaps := by
    rw [get?_handles_schedule]
    rcases (naps_schedule_iff h).mp hnaps with ⟨rfl, rfl, -, -⟩ | ⟨hid, hold⟩
    · rw [if_pos rfl]
    · rw [if_neg (Ne.symm hid), Option.filter_eq_some_iff, h.held hold, Bool.not_eq_true']
      exact ⟨rfl, (naps_spawn_iff.mpr (.inr hold)).isFinished_eq⟩

/-- The handles remain right when an id is cancelled. -/
theorem Sound.cancel (h : s.Sound) (id : Int64) : (s.cancel id).Sound where
  own {id' n} hhandle := by
    rw [Scheduler.cancel] at hhandle ⊢
    split at hhandle
    · rw [handles_abort, Table.get?_erase] at hhandle
      rw [idAt?_abort]
      split at hhandle
      · cases hhandle
      · exact h.own hhandle
    · exact h.own hhandle
  held {n id' due wakes} hnaps := by
    obtain ⟨hid, hold⟩ := (naps_cancel_iff h).mp hnaps
    rw [Scheduler.cancel]
    split
    · rw [handles_abort, Table.get?_erase, if_neg (Ne.symm hid), h.held hold]
    · exact h.held hold

/-- The handles remain right when a task looks at the clock. -/
theorem Sound.wake (h : s.Sound) (n : Nat) (elapsed : Int) (now : Instant) :
    (s.wake n elapsed now).1.Sound := by
  obtain ⟨hhandles, hids⟩ : (s.wake n elapsed now).1.handles = s.handles ∧
      ∀ k, (s.wake n elapsed now).1.idAt? k = s.idAt? k := by
    rcases wake_fst s n elapsed now with heq | ⟨stage, heq⟩
    · rw [heq]
      exact ⟨rfl, fun _ => rfl⟩
    · rw [heq]
      exact ⟨rfl, fun k => idAt?_setStage s n k stage⟩
  refine ⟨fun {id k} hhandle => ?_, fun {k id due wakes} hnaps => ?_⟩
  · rw [hids]
    exact h.own (hhandles ▸ hhandle)
  · rw [hhandles]
    rcases naps_wake_iff.mp hnaps with ⟨-, hold⟩ | ⟨-, wakes', -, hold, -⟩
    · exact h.held hold
    · exact h.held hold

/-- **What is pending is the number of ids of which a registration naps.** -/
theorem Sound.exists_ids (h : s.Sound) : ∃ ids : List Int64, ids.Nodup ∧
    (∀ id, id ∈ ids ↔ ∃ n due wakes, s.Naps n id due wakes) ∧ s.pending = ids.length := by
  refine ⟨s.purge.handles.keys, s.purge.handles.nodup_keys, fun id => ?_, ?_⟩
  · simp only [Table.mem_keys_iff, purge, Table.get?_filter, Option.filter_eq_some_iff,
      Bool.not_eq_true', isFinished_eq_false_iff]
    constructor
    · rintro ⟨n, hhandle, id', due, wakes, hnaps⟩
      obtain rfl : id' = id :=
        Option.some.inj ((Naps.idAt?_eq hnaps).symm.trans (h.own hhandle))
      exact ⟨n, due, wakes, hnaps⟩
    · rintro ⟨n, due, wakes, hnaps⟩
      exact ⟨n, h.held hnaps, id, due, wakes, hnaps⟩
  · rw [pending, Table.keys, List.length_map, purge, Table.filter, Table.values, List.filter_map,
      List.length_map]
    rfl

/-! ### The scheduler and the timers -/

/-- When the registration of an id looks at the clock, those of other ids nap as before. -/
theorem exists_naps_wake_of_ne (hnaps : s.Naps n id due wakes) (hid : id' ≠ id) {wakes' : Int} :
    (∃ k, (s.wake n elapsed now).1.Naps k id' due' wakes') ↔ ∃ k, s.Naps k id' due' wakes' := by
  have hplace : ∀ {k wakes'}, s.Naps k id' due' wakes' → k ≠ n := by
    rintro k wakes' hk rfl
    exact hid (Option.some.inj (hk.idAt?_eq.symm.trans hnaps.idAt?_eq))
  refine exists_congr fun k => naps_wake_iff.trans ⟨?_, fun hk => .inl ⟨hplace hk, hk⟩⟩
  rintro (⟨-, hk⟩ | ⟨heq, wakes', -, hk, -⟩)
  · exact hk
  · exact absurd heq (hplace hk)

/-- When the registration of an id looks at the clock, it naps from then on if it is not due. -/
theorem Sound.exists_naps_wake_self (h : s.Sound) (hnaps : s.Naps n id due wakes) {wakes' : Int} :
    (∃ k, (s.wake n elapsed now).1.Naps k id due' wakes') ↔
      due = due' ∧ ∃ d, nap? s.longestNap due now = some d ∧ elapsed + d.nanos = wakes' := by
  constructor
  · rintro ⟨k, hk⟩
    rcases naps_wake_iff.mp hk with ⟨hne, hold⟩ | ⟨rfl, wakes'', d, hold, hd, hwakes⟩
    · exact absurd (h.eq_of_naps hold hnaps) hne
    · have heq := hnaps.symm.trans hold
      simp only [Option.some.injEq, Registration.mk.injEq] at heq
      obtain ⟨-, rfl, -⟩ := heq
      exact ⟨rfl, d, hd, hwakes.symm⟩
  · rintro ⟨rfl, d, hd, rfl⟩
    exact ⟨n, naps_wake_iff.mpr (.inr ⟨rfl, wakes, d, hnaps, hd, rfl⟩)⟩

/-- The timers are the registrations that nap. -/
structure Represents (s : Scheduler) (ts : Timers) : Prop where
  longestNap : s.longestNap = ts.longestNap
  sound : s.Sound
  waiting : ∀ id due wakes,
    ts.waiting.get? id = some ⟨due, wakes⟩ ↔ ∃ n, s.Naps n id due wakes

/-- At first there are neither registrations nor timers. -/
theorem represents_idle (longestNap : Span) : (idle longestNap).Represents (.idle longestNap) where
  longestNap := rfl
  sound := sound_idle longestNap
  waiting _ _ _ := ⟨nofun, fun ⟨_, h⟩ => nomatch h⟩

namespace Represents

variable {ts : Timers}

/-- Registering an id sets its timer. -/
theorem schedule (h : s.Represents ts) (id : Int64) (due : Instant) (elapsed : Int) :
    (s.schedule id due elapsed).Represents (ts.schedule id due elapsed) where
  longestNap := by
    rw [Scheduler.schedule, enter]
    split <;> exact h.longestNap
  sound := h.sound.schedule id due elapsed
  waiting id' due' wakes := by
    simp only [Timers.schedule, Table.get?_insert, naps_schedule_iff h.sound]
    split
    · next heq =>
      subst heq
      simp [eq_comm]
    · next hne => simp [h.waiting, Ne.symm hne]

/-- Cancelling an id removes its timer. -/
theorem cancel (h : s.Represents ts) (id : Int64) : (s.cancel id).Represents (ts.cancel id) where
  longestNap := by
    rw [Scheduler.cancel]
    split <;> exact h.longestNap
  sound := h.sound.cancel id
  waiting id' due wakes := by
    simp only [Timers.cancel, Table.get?_erase, naps_cancel_iff h.sound]
    split
    · next heq => simp [heq]
    · next hne => simp [h.waiting, Ne.symm hne]

/-- A registration that naps looks at the clock as its timer does, and sends its id when the timer
fires. -/
theorem wake (h : s.Represents ts) (hnaps : s.Naps n id due wakes) (elapsed : Int) (now : Instant) :
    (s.wake n elapsed now).1.Represents (ts.look elapsed now id).1 ∧
      (s.wake n elapsed now).2 = if (ts.look elapsed now id).2 then some id else none := by
  have htimer := (h.waiting id due wakes).mpr ⟨n, hnaps⟩
  refine ⟨⟨?_, h.sound.wake n elapsed now, fun id' due' wakes' => ?_⟩, ?_⟩
  · rw [Timers.longestNap_look, ← h.longestNap]
    rcases wake_fst s n elapsed now with heq | ⟨stage, heq⟩ <;> rw [heq]
    rfl
  · rw [Timers.get?_look htimer, ← h.longestNap]
    split
    · next heq =>
      subst heq
      rw [h.sound.exists_naps_wake_self hnaps, Option.map_eq_some_iff]
      simp only [Timer.mk.injEq]
      exact ⟨fun ⟨d, hd, hdue, hwakes⟩ => ⟨hdue, d, hd, hwakes⟩,
        fun ⟨hdue, d, hd, hwakes⟩ => ⟨d, hd, hdue, hwakes⟩⟩
    · next hne => rw [exists_naps_wake_of_ne hnaps (Ne.symm hne), h.waiting]
  · rw [Timers.look_snd htimer, hnaps.wake_snd_eq]
    simp only [decide_eq_true_eq]

/-- What is pending is the number of timers. -/
theorem pending_eq (h : s.Represents ts) : s.pending = ts.pending := by
  obtain ⟨ids, hnodup, hids, hpending⟩ := h.sound.exists_ids
  have hmem : ∀ id, id ∈ ids ↔ id ∈ ts.waiting.keys := fun id => by
    rw [hids, Table.mem_keys_iff]
    constructor
    · rintro ⟨n, due, wakes, hnaps⟩
      exact ⟨_, (h.waiting id due wakes).mpr ⟨n, hnaps⟩⟩
    · rintro ⟨⟨due, wakes⟩, htimer⟩
      obtain ⟨n, hnaps⟩ := (h.waiting id due wakes).mp htimer
      exact ⟨n, due, wakes, hnaps⟩
  rw [hpending, ((List.perm_ext_iff_of_nodup hnodup ts.waiting.nodup_keys).mpr hmem).length_eq,
    Table.keys, List.length_map]
  rfl

end Represents

end Scheduler

end Household
