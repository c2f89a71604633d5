import Household.Proofs.Alarm.Passing
import Household.Proofs.Watch.Basic

/-!
# What Commands Do to Each Id

A move sets or cancels the timers of some ids and leaves the others as they are. When no id gets two
commands, what becomes of an id is decided by its own command alone.

## Main results

* `same_obeyAll`: commands leave the ids as they are that none of them is about.
* `timer_of_schedule_mem`, `timer_of_cancel_mem`: what becomes of the other ids.
-/

namespace Household.Watch

variable {w w' w'' : Watch} {id : Int64}

/-! ### What has happened since -/

/-- Setting its timer is the last thing that has happened to an alarm; other entries add to what has
happened since. -/
theorem since_cons (id : Int64) (e : Entry) (log : List Entry) :
    since id (e :: log) = if e.arms id then [] else e :: since id log := by
  rw [since, List.takeWhile_cons]
  cases e.arms id <;> rfl

/-! ### Ids that a move leaves as they are -/

/-- Everything about the id is in the second watch as it is in the first, where at most more has
happened to it since its timer was last set. -/
structure Same (id : Int64) (w w' : Watch) : Prop where
  alarm : w'.store.alarms.get? id = w.store.alarms.get? id
  made : w'.made.get? id = w.made.get? id
  timer : w'.timers.waiting.get? id = w.timers.waiting.get? id
  queue : id ∈ w.queue → id ∈ w'.queue
  armed : w'.log.find? (·.arms id) = w.log.find? (·.arms id)
  since : ∀ e ∈ Watch.since id w.log, e ∈ Watch.since id w'.log
  restarted : w'.restarted = w.restarted

/-- Two moves that leave an id as it is do so together. -/
theorem Same.trans (h : Same id w w') (h' : Same id w' w'') : Same id w w'' where
  alarm := h'.alarm.trans h.alarm
  made := h'.made.trans h.made
  timer := h'.timer.trans h.timer
  queue := fun hq => h'.queue (h.queue hq)
  armed := h'.armed.trans h.armed
  since := fun e he => h'.since e (h.since e he)
  restarted := h'.restarted.trans h.restarted

/-- A command leaves the other ids as they are. -/
theorem same_obey {c : TimerCommand} (h : c.id ≠ id) (w : Watch) : Same id w (w.obey c) := by
  cases c with
  | schedule k due =>
    have hk : k ≠ id := h
    have harms : (Entry.armed k due w.now).arms id = false := by simp [Entry.arms, hk]
    refine ⟨rfl, rfl, ?_, fun hq => hq, ?_, fun e he => ?_, rfl⟩
    · simp [obey, Timers.schedule, hk]
    · simp [obey, harms]
    · simp [obey, since_cons, harms, he]
  | cancel k =>
    have hk : k ≠ id := h
    refine ⟨rfl, rfl, ?_, fun hq => hq, rfl, fun _ he => he, rfl⟩
    simp [obey, Timers.cancel, hk]

/-- Commands leave the ids as they are that none of them is about. -/
theorem same_obeyAll {cs : List TimerCommand} (h : id ∉ cs.map TimerCommand.id) (w : Watch) :
    Same id w (w.obeyAll cs) := by
  induction cs generalizing w with
  | nil => exact ⟨rfl, rfl, rfl, fun hq => hq, rfl, fun _ he => he, rfl⟩
  | cons c cs ih =>
    rw [List.map_cons, List.mem_cons, not_or] at h
    exact (same_obey (Ne.symm h.1) w).trans (ih h.2 (w.obey c))

/-! ### What commands do -/

/-- Commands change timers and log, and nothing else. -/
theorem exists_obeyAll_eq (w : Watch) (cs : List TimerCommand) :
    ∃ timers log, w.obeyAll cs = { w with timers, log } := by
  induction cs generalizing w with
  | nil => exact ⟨_, _, rfl⟩
  | cons c cs ih =>
    obtain ⟨timers, log, h⟩ := ih (w.obey c)
    refine ⟨timers, log, h.trans ?_⟩
    cases c <;> rfl

/-- Commands change no store. -/
@[simp] theorem store_obeyAll (w : Watch) (cs : List TimerCommand) :
    (w.obeyAll cs).store = w.store := by
  obtain ⟨_, _, h⟩ := w.exists_obeyAll_eq cs
  rw [h]

/-- Commands make no alarm. -/
@[simp] theorem made_obeyAll (w : Watch) (cs : List TimerCommand) :
    (w.obeyAll cs).made = w.made := by
  obtain ⟨_, _, h⟩ := w.exists_obeyAll_eq cs
  rw [h]

/-- Commands let nothing fire. -/
@[simp] theorem queue_obeyAll (w : Watch) (cs : List TimerCommand) :
    (w.obeyAll cs).queue = w.queue := by
  obtain ⟨_, _, h⟩ := w.exists_obeyAll_eq cs
  rw [h]

/-- Commands take no time. -/
@[simp] theorem now_obeyAll (w : Watch) (cs : List TimerCommand) : (w.obeyAll cs).now = w.now := by
  obtain ⟨_, _, h⟩ := w.exists_obeyAll_eq cs
  rw [h]

/-- When no id gets two commands, an id is left as it is by all commands that come after its own. -/
theorem exists_same_obeyAll {cs : List TimerCommand} (hn : (cs.map TimerCommand.id).Nodup)
    {c : TimerCommand} (hc : c ∈ cs) (w : Watch) :
    ∃ timers log, Same c.id (obey { w with timers, log } c) (w.obeyAll cs) := by
  obtain ⟨before, after, rfl⟩ := List.append_of_mem hc
  obtain ⟨timers, log, hbefore⟩ := w.exists_obeyAll_eq before
  refine ⟨timers, log, ?_⟩
  have hafter : c.id ∉ after.map TimerCommand.id := by
    rw [List.map_append, List.map_cons] at hn
    exact (List.nodup_cons.mp (List.nodup_append.mp hn).2.1).1
  have hsplit : w.obeyAll (before ++ c :: after) = ((w.obeyAll before).obey c).obeyAll after := by
    simp only [obeyAll, List.foldl_append, List.foldl_cons]
  rw [hsplit, hbefore]
  exact same_obeyAll hafter _

/-- A timer that is set is waiting, and its setting is the last in the log. -/
theorem timer_of_schedule_mem {cs : List TimerCommand} (hn : (cs.map TimerCommand.id).Nodup)
    {due : Instant} (h : .schedule id due ∈ cs) (w : Watch) :
    (w.obeyAll cs).timers.waiting.get? id = some ⟨due, w.elapsed⟩ ∧
      (w.obeyAll cs).log.find? (·.arms id) = some (.armed id due w.now) := by
  obtain ⟨timers, log, (hsame : Same id _ _)⟩ := exists_same_obeyAll hn h w
  rw [hsame.timer, hsame.armed]
  simp [obey, Timers.schedule, Entry.arms]

/-- A timer that is cancelled is not waiting. -/
theorem timer_of_cancel_mem {cs : List TimerCommand} (hn : (cs.map TimerCommand.id).Nodup)
    (h : .cancel id ∈ cs) (w : Watch) : (w.obeyAll cs).timers.waiting.get? id = none := by
  obtain ⟨timers, log, (hsame : Same id _ _)⟩ := exists_same_obeyAll hn h w
  rw [hsame.timer]
  simp [obey, Timers.cancel]

end Household.Watch
