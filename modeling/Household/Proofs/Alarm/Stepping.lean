import Household.Proofs.Alarm.Passing

/-!
# A Pass Step by Step

A pass that is alone takes its steps with nothing in between. What its steps then come to is what a
whole pass comes to, so that everything said about whole passes holds of passes that take steps.

## Main results

* `stepped_step`: what one step can do.
* `exists_steps_eq_run`: the steps of a pass that is alone make a whole pass.
-/

namespace Household.Pass

/-! ### One step -/

/-- What one step of a pass can do: the stages before and after it, the store after it and what the
scheduler is told. -/
inductive Stepped (view : View) (store : Store) :
    Stage → Stage → Store → List TimerCommand → Prop
  /-- The server did not answer. -/
  | unserved {e : SourceError} (hfetched : view.fetched = .error e) :
      Stepped view store .fetching (.ended (.error (.source e))) store []
  /-- The server answered. -/
  | served {deviceTasks : List DeviceTask} (hfetched : view.fetched = .ok deviceTasks) :
      Stepped view store .fetching (.reading deviceTasks) store []
  /-- The store could not be read. -/
  | unread {deviceTasks : List DeviceTask} {e : StoreError} (hall : store.all = .error e) :
      Stepped view store (.reading deviceTasks) (.ended (.error (.store e))) store []
  /-- Nothing is to change. -/
  | settled {deviceTasks : List DeviceTask} {stored : List Alarm} (hall : store.all = .ok stored)
      (hempty : (Diff.reconcile deviceTasks stored).isEmpty = true) :
      Stepped view store (.reading deviceTasks)
        (.ended (.ok (Diff.reconcile deviceTasks stored))) store []
  /-- There is something to change. -/
  | decided {deviceTasks : List DeviceTask} {stored : List Alarm} (hall : store.all = .ok stored)
      (hempty : ¬ (Diff.reconcile deviceTasks stored).isEmpty = true) :
      Stepped view store (.reading deviceTasks)
        (.committing (Diff.reconcile deviceTasks stored)) store []
  /-- The store refused the diff. -/
  | refused {diff : Diff} {e : StoreError} (happly : store.apply diff = .error e) :
      Stepped view store (.committing diff) (.ended (.error (.store e))) store []
  /-- The diff is committed. -/
  | committed {diff : Diff} {store' : Store} (happly : store.apply diff = .ok store') :
      Stepped view store (.committing diff) (.arming diff view.now diff.intents) store' []
  /-- The scheduler is told of one alarm. -/
  | told {diff : Diff} {now : Instant} {i : Intent} {left : List Intent} {c : TimerCommand}
      (hcommand : i.command now view.lead = .ok c) :
      Stepped view store (.arming diff now (i :: left)) (.arming diff now left) store [c]
  /-- An alarm has no time to fire. -/
  | stuck {diff : Diff} {now : Instant} {i : Intent} {left : List Intent} {e : RangeError}
      (hcommand : i.command now view.lead = .error e) :
      Stepped view store (.arming diff now (i :: left)) (.ended (.error (.range e))) store []
  /-- The scheduler has been told of every alarm. -/
  | done {diff : Diff} {now : Instant} :
      Stepped view store (.arming diff now []) (.ended (.ok diff)) store []
  /-- The pass had ended before. -/
  | ended {result : Except Failure Diff} :
      Stepped view store (.ended result) (.ended result) store []

/-- **What one step can do.** -/
theorem stepped_step (view : View) (store : Store) (stage : Stage) :
    Stepped view store stage (step view store stage).1 (step view store stage).2.1
      (step view store stage).2.2 := by
  cases stage with
  | fetching =>
    cases h : view.fetched with
    | error e =>
      simp only [step, h]
      exact .unserved h
    | ok deviceTasks =>
      simp only [step, h]
      exact .served h
  | reading deviceTasks =>
    cases h : store.all with
    | error e =>
      simp only [step, h]
      exact .unread h
    | ok stored =>
      simp only [step, h]
      split
      · next hempty => exact .settled h hempty
      · next hempty => exact .decided h hempty
  | committing diff =>
    cases h : store.apply diff with
    | error e =>
      simp only [step, h]
      exact .refused h
    | ok store' =>
      simp only [step, h]
      exact .committed h
  | arming diff now left =>
    cases left with
    | nil => exact .done
    | cons i left =>
      cases h : i.command now view.lead with
      | error e =>
        simp only [step, h]
        exact .stuck h
      | ok c =>
        simp only [step, h]
        exact .told h
  | ended result => exact .ended

/-! ### All steps -/

/-- A number of steps with nothing in between: where they lead, and what the scheduler is told. -/
def steps (view : View) : Nat → Store → Stage → Stage × Store × List TimerCommand
  | 0, store, stage => (stage, store, [])
  | n + 1, store, stage =>
    let (stage, store, told) := step view store stage
    let (stage, store, more) := steps view n store stage
    (stage, store, told ++ more)

/-- The steps of a pass that is arming carry out what is left. -/
theorem exists_steps_arming (view : View) (store : Store) (diff : Diff) (now : Instant)
    (left : List Intent) :
    ∃ n, steps view n store (.arming diff now left) =
      (.ended (match (carryOut now view.lead left).2 with
        | none => .ok diff
        | some e => .error (.range e)), store, (carryOut now view.lead left).1) := by
  induction left with
  | nil => exact ⟨1, rfl⟩
  | cons i left ih =>
    obtain ⟨n, hn⟩ := ih
    cases hc : i.command now view.lead with
    | error e =>
      refine ⟨1, ?_⟩
      simp only [steps, step, carryOut, hc, List.append_nil]
    | ok c =>
      refine ⟨n + 1, ?_⟩
      simp only [steps, step, carryOut, hc, hn, List.cons_append, List.nil_append]

/-- **The steps of a pass that is alone make a whole pass.** -/
theorem exists_steps_eq_run (view : View) (store : Store) :
    ∃ n, steps view n store .fetching =
      (.ended (run view store).result, (run view store).store, (run view store).commands) := by
  cases hf : view.fetched with
  | error e => exact ⟨1, by simp only [steps, step, run, hf, List.append_nil]⟩
  | ok deviceTasks =>
    cases ha : store.all with
    | error e => exact ⟨2, by simp only [steps, step, run, hf, ha, List.append_nil]⟩
    | ok stored =>
      by_cases hempty : (Diff.reconcile deviceTasks stored).isEmpty = true
      · exact ⟨2, by simp only [steps, step, run, hf, ha, if_pos hempty, List.append_nil]⟩
      · cases hc : store.apply (Diff.reconcile deviceTasks stored) with
        | error e =>
          refine ⟨3, ?_⟩
          simp only [steps, step, run, hf, ha, if_neg hempty, hc, List.append_nil]
        | ok store' =>
          obtain rfl := Store.eq_written_of_apply hc
          obtain ⟨n, hn⟩ := exists_steps_arming view
            (store.written (Diff.reconcile deviceTasks stored)) (Diff.reconcile deviceTasks stored)
            view.now (Diff.reconcile deviceTasks stored).intents
          refine ⟨n + 3, ?_⟩
          rw [run_eq_committed hf ha hc]
          simp only [steps, step, hf, ha, if_neg hempty, hc, hn, List.nil_append]
          rfl

/-! ### What a pass commits -/

/-- The histories that a pass commits, if server and store let it get that far. -/
def committed? (fetched : Except SourceError (List DeviceTask)) (store : Store) :
    Option (List DeviceTask) :=
  match fetched with
  | .error _ => none
  | .ok deviceTasks =>
    match store.all with
    | .error _ => none
    | .ok stored =>
      match store.apply (Diff.reconcile deviceTasks stored) with
      | .error _ => none
      | .ok _ => some deviceTasks

/-- A pass commits the histories that it was served if the store can be read and takes the diff. -/
theorem committed?_eq_some_iff {fetched : Except SourceError (List DeviceTask)} {store : Store}
    {deviceTasks : List DeviceTask} :
    committed? fetched store = some deviceTasks ↔
      fetched = .ok deviceTasks ∧ ∃ stored store', store.all = .ok stored ∧
        store.apply (Diff.reconcile deviceTasks stored) = .ok store' := by
  rw [committed?.eq_def]
  cases fetched with
  | error e => simp
  | ok served =>
    cases ha : store.all with
    | error e => simp
    | ok stored =>
      dsimp only
      cases hc : store.apply (Diff.reconcile served stored) with
      | error e =>
        refine iff_of_false (by simp) ?_
        rintro ⟨hserved, stored', store', hstored, happly⟩
        obtain rfl := Except.ok.inj hserved
        obtain rfl := Except.ok.inj hstored
        exact absurd (hc.symm.trans happly) (by simp)
      | ok store' =>
        constructor
        · intro h
          obtain rfl := Option.some.inj h
          exact ⟨rfl, stored, store', rfl, hc⟩
        · rintro ⟨hserved, -⟩
          exact congrArg some (Except.ok.inj hserved)

/-- **A pass leaves the store with what it commits, or as it was.** -/
theorem store_run (view : View) (store : Store) :
    (run view store).store =
      match committed? view.fetched store with
      | some deviceTasks => store.written (Diff.reconcile deviceTasks store.alarms.values)
      | none => store := by
  have hcases := outcome_run view store
  generalize run view store = report at hcases
  cases hcases with
  | unserved hfetched => simp only [committed?, hfetched]
  | unstored hfetched hstore =>
    rcases hstore with hall | ⟨stored, hall, happly⟩
    · simp only [committed?, hfetched, hall]
    · simp only [committed?, hfetched, hall, happly]
  | committed hfetched hall happly =>
    rw [committed?_eq_some_iff.mpr ⟨hfetched, _, _, hall, happly⟩,
      (Store.all_eq_ok_iff.mp hall).2]
    rfl

end Household.Pass
