import Household.Proofs.Alarm.Convergence
import Household.Proofs.Alarm.Stepping
import Household.Proofs.Watch.Basic
import Mathlib.Data.Set.Insert
import Mathlib.Logic.Function.Basic

/-!
# Overlapping Passes

Passes overlap when one begins before another one has ended. They share a store and the timers, and
take their steps in any order. The server may list something else at each fetch, the clocks may read
anything at each step, and the database may come to refuse something in between. No timer fires.

`Overlap` is how far each pass has got, and what all of them share. Its last part is looked at by no
pass and is there to say what a run has done: the deeds, each with the pass that did it.

## Main results

* `Overlap.run`: passes that take their steps in a given order.
* `run_induction`: what every move keeps up holds after a run.
* `exists_endsWith`: a pass with nothing in between its steps does what a whole pass does.
-/

namespace Household

/-! ### Commands and timers -/

/-- The timers after a command that is given at a monotonic time. -/
def Timers.obey (elapsed : Int) (ts : Timers) : TimerCommand → Timers
  | .schedule id due => ts.schedule id due elapsed
  | .cancel id => ts.cancel id

/-- The timer that a command leaves its alarm with. -/
def TimerCommand.timer? (elapsed : Int) : TimerCommand → Option Timer
  | .schedule _ due => some ⟨due, elapsed⟩
  | .cancel _ => none

/-- A command is about the timer of its own alarm only. -/
theorem Timers.get?_obey (elapsed : Int) (ts : Timers) (c : TimerCommand) (id : Int64) :
    (ts.obey elapsed c).waiting.get? id =
      if c.id = id then c.timer? elapsed else ts.waiting.get? id := by
  cases c with
  | schedule k due => exact Table.get?_insert _ _ _ _
  | cancel k => exact Table.get?_erase _ _ _

/-! ### Deeds -/

/-- What a pass does to what it shares with others. -/
inductive Deed
  /-- It commits a diff, and reads the clock. -/
  | commit (diff : Diff) (now : Instant)
  /-- It gives the scheduler a command. -/
  | command (c : TimerCommand) (elapsed : Int)

namespace Deed

/-- What is done in a step from one stage to another with these commands. -/
def ofStep (elapsed : Int) : Pass.Stage → Pass.Stage → List TimerCommand → List Deed
  | .committing diff, .arming _ now _, _ => [.commit diff now]
  | _, _, cs => cs.map (.command · elapsed)

/-- The store after a deed. -/
def onStore (s : Store) : Deed → Store
  | .commit diff _ => s.written diff
  | .command _ _ => s

/-- The timers after a deed. -/
def onTimers (ts : Timers) : Deed → Timers
  | .commit _ _ => ts
  | .command c elapsed => ts.obey elapsed c

end Deed

/-! ### Passes in any order -/

/-- How far each pass has got, and what all of them share. -/
structure Overlap (ι : Type) where
  stage : ι → Pass.Stage
  store : Store
  timers : Timers
  /-- What the passes have done, the last first. -/
  deeds : List (ι × Deed)

namespace Overlap

/-- Passes that are about to begin. -/
def begin (ι : Type) (store : Store) (timers : Timers) : Overlap ι :=
  ⟨fun _ => .fetching, store, timers, []⟩

/-- What one of the passes has done. -/
def doneBy {ι : Type} (o : Overlap ι) (i : ι) : Set Deed :=
  {deed | (i, deed) ∈ o.deeds}

/-- What can happen next. -/
inductive Move (ι : Type)
  /-- A pass takes a step; the server would answer it so, and the clocks read this. -/
  | turn (i : ι) (fetched : Except SourceError (List DeviceTask)) (now : Instant) (elapsed : Int)
  /-- The database comes to refuse something or to answer nothing, or ceases to. -/
  | trouble (outage? : Option Outage) (refusedWrites refusedDeletes : List Int64)

variable {ι : Type} [DecidableEq ι]

/-- A pass takes a step. -/
def turn (o : Overlap ι) (i : ι) (view : Pass.View) (elapsed : Int) : Overlap ι :=
  let (stage, store, commands) := Pass.step view o.store (o.stage i)
  { stage := Function.update o.stage i stage
    store
    timers := commands.foldl (Timers.obey elapsed) o.timers
    deeds := (Deed.ofStep elapsed (o.stage i) stage commands).map (i, ·) ++ o.deeds }

/-- One move. All passes have the same lead. -/
def move (lead : Span) (o : Overlap ι) : Move ι → Overlap ι
  | .turn i fetched now elapsed => o.turn i ⟨fetched, now, lead⟩ elapsed
  | .trouble outage? refusedWrites refusedDeletes =>
    { o with store := o.store.troubled outage? refusedWrites refusedDeletes }

/-- Moves one after the other. -/
def run (lead : Span) (o : Overlap ι) (moves : List (Move ι)) : Overlap ι :=
  moves.foldl (move lead) o

/-- What holds at first and is kept up by every move holds after a run. -/
theorem run_induction {lead : Span} {P : Overlap ι → Prop} {Q : Move ι → Prop}
    (hmove : ∀ o m, Q m → P o → P (o.move lead m)) {o : Overlap ι} (h : P o)
    {moves : List (Move ι)} (hmoves : ∀ m ∈ moves, Q m) : P (o.run lead moves) := by
  induction moves generalizing o with
  | nil => exact h
  | cons m moves ih =>
    obtain ⟨hm, hmoves⟩ := List.forall_mem_cons.mp hmoves
    exact ih (hmove o m hm h) hmoves

/-- The step of a pass leaves the others where they are. -/
theorem stage_turn_ne (o : Overlap ι) {i j : ι} (h : j ≠ i) (view : Pass.View) (elapsed : Int) :
    (o.turn i view elapsed).stage j = o.stage j :=
  Function.update_of_ne h _ _

/-- The pass that takes a step gets where the step leads. -/
theorem stage_turn_self (o : Overlap ι) (i : ι) (view : Pass.View) (elapsed : Int) :
    (o.turn i view elapsed).stage i = (Pass.step view o.store (o.stage i)).1 :=
  Function.update_self _ _ _

/-- What holds of the stage that the step leads to, and of those of the other passes, holds of all
stages after the step. -/
theorem forall_stage_turn {o : Overlap ι} {i : ι} {view : Pass.View} {P : ι → Pass.Stage → Prop}
    (hself : P i (Pass.step view o.store (o.stage i)).1) (hother : ∀ j, j ≠ i → P j (o.stage j))
    (elapsed : Int) (j : ι) : P j ((o.turn i view elapsed).stage j) := by
  by_cases hj : j = i
  · subst hj
    rw [stage_turn_self]
    exact hself
  · rw [stage_turn_ne o hj]
    exact hother j hj

/-- The pass that takes a step leaves the store that the step leaves. -/
theorem store_turn (o : Overlap ι) (i : ι) (view : Pass.View) (elapsed : Int) :
    (o.turn i view elapsed).store = (Pass.step view o.store (o.stage i)).2.1 :=
  rfl

/-- The timers hear what the scheduler is told in a step. -/
theorem timers_turn (o : Overlap ι) (i : ι) (view : Pass.View) (elapsed : Int) :
    (o.turn i view elapsed).timers =
      (Pass.step view o.store (o.stage i)).2.2.foldl (Timers.obey elapsed) o.timers :=
  rfl

/-- What is done in a step comes after what was done before. -/
theorem deeds_turn (o : Overlap ι) (i : ι) (view : Pass.View) (elapsed : Int) :
    (o.turn i view elapsed).deeds =
      (Deed.ofStep elapsed (o.stage i) (Pass.step view o.store (o.stage i)).1
        (Pass.step view o.store (o.stage i)).2.2).map (i, ·) ++ o.deeds :=
  rfl

/-- The step of a pass is no deed of the others. -/
theorem doneBy_turn_ne (o : Overlap ι) {i j : ι} (h : j ≠ i) (view : Pass.View) (elapsed : Int) :
    (o.turn i view elapsed).doneBy j = o.doneBy j := by
  ext deed
  simp only [doneBy, deeds_turn, Set.mem_ofPred_eq, List.mem_append, List.mem_map, Prod.mk.injEq]
  exact or_iff_right fun ⟨_, _, hij, _⟩ => h hij.symm

/-- The pass that takes a step does what is done in it. -/
theorem doneBy_turn_self (o : Overlap ι) (i : ι) (view : Pass.View) (elapsed : Int) :
    (o.turn i view elapsed).doneBy i =
      {deed | deed ∈ Deed.ofStep elapsed (o.stage i) (Pass.step view o.store (o.stage i)).1
        (Pass.step view o.store (o.stage i)).2.2} ∪ o.doneBy i := by
  ext deed
  simp [doneBy, deeds_turn]

/-! ### One pass -/

/-- A pass that takes its steps with nothing in between takes those of a pass that is alone. -/
theorem run_replicate_turn (lead : Span) (fetched : Except SourceError (List DeviceTask))
    (now : Instant) (elapsed : Int) (i : ι) (n : Nat) (o : Overlap ι) :
    let o' := o.run lead (List.replicate n (.turn i fetched now elapsed))
    let made := Pass.steps ⟨fetched, now, lead⟩ n o.store (o.stage i)
    o'.stage i = made.1 ∧ o'.store = made.2.1 ∧
      o'.timers = made.2.2.foldl (Timers.obey elapsed) o.timers := by
  induction n generalizing o with
  | zero => exact ⟨rfl, rfl, rfl⟩
  | succ n ih =>
    have hnext := ih (o.turn i ⟨fetched, now, lead⟩ elapsed)
    rw [stage_turn_self, store_turn] at hnext
    obtain ⟨hstage, hstore, htimers⟩ := hnext
    refine ⟨hstage, hstore, htimers.trans ?_⟩
    rw [Pass.steps, List.foldl_append]
    rfl

/-- A pass has come to an end, and the store and the timers are what a whole pass makes of them. -/
structure EndsWith {ι : Type} (report : Pass.Report) (timers : Timers) (elapsed : Int) (i : ι)
    (o : Overlap ι) : Prop where
  stage : o.stage i = .ended report.result
  store : o.store = report.store
  timers : o.timers = report.commands.foldl (Timers.obey elapsed) timers

/-- **A pass that takes its steps with nothing in between does what a whole pass does.** -/
theorem exists_endsWith (lead : Span) (fetched : Except SourceError (List DeviceTask))
    (now : Instant) (elapsed : Int) {o : Overlap ι} {i : ι} (h : o.stage i = .fetching) :
    ∃ n, EndsWith (Pass.run ⟨fetched, now, lead⟩ o.store) o.timers elapsed i
      (o.run lead (List.replicate n (.turn i fetched now elapsed))) := by
  obtain ⟨n, hn⟩ := Pass.exists_steps_eq_run ⟨fetched, now, lead⟩ o.store
  have hrun := run_replicate_turn lead fetched now elapsed i n o
  rw [h, hn] at hrun
  exact ⟨n, hrun.1, hrun.2.1, hrun.2.2⟩

/-! ### Two passes over the laundry -/

/-- The timer of the alarm that no event is left for. -/
def laundryTimers : Timers :=
  (Timers.idle Timers.defaultNap).schedule 7 .epoch 0

/-- Two passes over the laundry that take their steps in turn, one at the epoch and one at noon. -/
def laundryMoves : List (Move Bool) :=
  (List.replicate 6 [.turn false (.ok Pass.laundryHistories) .epoch 0,
    .turn true (.ok Pass.laundryHistories) Pass.noon 0]).flatten

/-- How far the passes over the laundry get, ten minutes ahead of every start. -/
def laundryOverlap : Overlap Bool :=
  (begin Bool (.database Pass.laundryDatabase) laundryTimers).run ⟨600 * 1000000000⟩ laundryMoves

/-- The database of the laundry keeps every alarm under its own id. -/
theorem keyed_laundry : (Store.database Pass.laundryDatabase).Keyed := by
  have hrows : Table.Keyed Row.id Pass.laundryDatabase.rows :=
    Table.Keyed.empty.insert (⟨7, "Washer", 0, 300000⟩ : Row)
  exact hrows

end Overlap

end Household
