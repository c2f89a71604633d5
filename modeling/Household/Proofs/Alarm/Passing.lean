import Household.Alarm.Pass
import Household.Proofs.Alarm.Bounds
import Household.Proofs.Alarm.Keeping
import Household.Proofs.Alarm.Reconciling
import Household.Proofs.Loop

/-!
# What a Pass Can Do

A pass ends in one of three ways: the server did not answer, the store did not, or the diff of the
listed runs was committed and its alarms are armed and disarmed one by one. Only the last way leaves
anything behind, and only there arithmetic can go out of range.

## Main results

* `Pass.outcome_run`: the three ways in which a pass ends.
* `Pass.schedule_mem_carryOut_iff`, `Pass.cancel_mem_carryOut_iff`: how far the commands of a diff
  get.
-/

namespace Household

/-- The alarm that a command is about. -/
def TimerCommand.id : TimerCommand → Int64
  | .schedule id _ => id
  | .cancel id => id

/-- The alarm that an intent is about. -/
def Intent.id : Intent → Int64
  | .arm a => a.id
  | .disarm a => a.id

/-- The command of an intent is about the same alarm. -/
theorem Intent.id_of_command {now : Instant} {lead : Span} {i : Intent} {c : TimerCommand}
    (h : i.command now lead = .ok c) : c.id = i.id := by
  cases i with
  | arm a =>
    simp only [command, bind, Except.bind] at h
    split at h
    · exact absurd h (by simp)
    · obtain rfl := Except.ok.inj h
      rfl
  | disarm a =>
    obtain rfl := Except.ok.inj h
    rfl

/-- The command of an inserted alarm sets its timer for when it first fires. -/
theorem Intent.command_arm_eq_ok_iff {now : Instant} {lead : Span} {a : Alarm} {c : TimerCommand} :
    (Intent.arm a).command now lead = .ok c ↔
      ∃ due, firstFire now a.start lead = .ok due ∧ c = .schedule a.id due := by
  simp only [command, bind, Except.bind]
  cases firstFire now a.start lead with
  | error e => simp
  | ok due => simp [pure, Except.pure, eq_comm]

/-- Out of range is only a start less the lead. -/
theorem Intent.eq_difference_of_command {now : Instant} {lead : Span} {i : Intent} {e : RangeError}
    (h : i.command now lead = .error e) : e = .difference := by
  cases i with
  | arm a =>
    simp only [command, firstFire, bind, Except.bind] at h
    cases hs : a.start.sub lead with
    | error e' =>
      rw [hs] at h
      obtain rfl := Except.error.inj h
      exact Instant.sub_eq_error hs
    | ok ahead =>
      rw [hs] at h
      cases h
  | disarm a => cases h

/-- What the scheduler is told for an intent, if there is a time for it. -/
def Intent.told? (now : Instant) (lead : Span) (i : Intent) : Option (List TimerCommand) :=
  match i.command now lead with
  | .error _ => none
  | .ok c => some [c]

/-- What is told for an intent is its command. -/
theorem Intent.exists_told?_iff {now : Instant} {lead : Span} {i : Intent} {c : TimerCommand} :
    (∃ cs, i.told? now lead = some cs ∧ c ∈ cs) ↔ i.command now lead = .ok c := by
  rw [told?]
  cases i.command now lead with
  | error e => simp
  | ok c' => simp [eq_comm]

/-- There is a time for an inserted alarm exactly if it first fires at some time. -/
theorem Intent.told?_arm_ne_none_iff {now : Instant} {lead : Span} {a : Alarm} :
    (Intent.arm a).told? now lead ≠ none ↔ ∃ due, firstFire now a.start lead = .ok due := by
  rw [told?]
  cases hc : (Intent.arm a).command now lead with
  | error e =>
    refine iff_of_false (by simp) ?_
    rintro ⟨due, hdue⟩
    cases hc.symm.trans (command_arm_eq_ok_iff.mpr ⟨due, hdue, rfl⟩)
  | ok c =>
    obtain ⟨due, hdue, -⟩ := command_arm_eq_ok_iff.mp hc
    exact iff_of_true (by simp) ⟨due, hdue⟩

namespace Pass

variable {now : Instant} {lead : Span} {d : Diff}

/-! ### Carrying out intents -/

/-- Intents are carried out in a loop that stops at the first one without a time. -/
theorem carryOut_eq_outputs (now : Instant) (lead : Span) (is : List Intent) :
    (carryOut now lead is).1 = Loop.outputs (Intent.told? now lead) is := by
  induction is with
  | nil => rfl
  | cons i is ih =>
    rw [carryOut, Loop.outputs, Intent.told?, ← ih]
    cases i.command now lead <;> rfl

/-- The commands are about some of the alarms of the intents, in their order. -/
theorem map_id_carryOut_sublist (now : Instant) (lead : Span) (is : List Intent) :
    ((carryOut now lead is).1.map TimerCommand.id).Sublist (is.map Intent.id) := by
  rw [carryOut_eq_outputs]
  refine Loop.map_outputs_sublist (fun i cs hcs => ?_) is
  rw [Intent.told?] at hcs
  split at hcs
  · cases hcs
  · next c hc =>
    obtain rfl := Option.some.inj hcs
    rw [List.map_singleton, Intent.id_of_command hc]

/-- Timers are cancelled without regard to the clock. -/
theorem carryOut_disarms (now : Instant) (lead : Span) (del : List Alarm) :
    (carryOut now lead (del.map .disarm)).1 = del.map fun a => .cancel a.id := by
  induction del with
  | nil => rfl
  | cons a del ih => rw [List.map_cons, carryOut, Intent.command, List.map_cons, ← ih]

/-- Out of range is only the start of an inserted alarm less the lead. -/
theorem eq_difference_of_carryOut {is : List Intent} {e : RangeError}
    (h : (carryOut now lead is).2 = some e) : e = .difference := by
  induction is with
  | nil => cases h
  | cons i is ih =>
    rw [carryOut] at h
    cases hi : i.command now lead with
    | error e' =>
      rw [hi] at h
      obtain rfl := Option.some.inj h
      exact Intent.eq_difference_of_command hi
    | ok c =>
      rw [hi] at h
      exact ih h

/-! ### The commands of a diff -/

/-- The intents of a diff are about its alarms. -/
theorem map_id_intents (d : Diff) :
    d.intents.map Intent.id = d.toInsert.map (·.id) ++ d.toDelete.map (·.id) := by
  rw [Diff.intents, List.map_append, List.map_map, List.map_map]
  rfl

/-- **A timer is set if its alarm and all inserted before it have a time to fire.** -/
theorem schedule_mem_carryOut_iff (hd : (d.toInsert.map (·.id)).Pairwise (· < ·)) {id : Int64}
    {due : Instant} :
    .schedule id due ∈ (carryOut now lead d.intents).1 ↔
      ∃ a ∈ d.toInsert,
        (∀ b ∈ d.toInsert, b.id ≤ a.id → ∃ due, firstFire now b.start lead = .ok due) ∧
          a.id = id ∧ firstFire now a.start lead = .ok due := by
  have hdisarms :
      .schedule id due ∉ Loop.outputs (Intent.told? now lead) (d.toDelete.map .disarm) := by
    rw [← carryOut_eq_outputs, carryOut_disarms]
    simp
  have hids : ((d.toInsert.map Intent.arm).map Intent.id).Pairwise (· < ·) := by
    rw [List.map_map]
    exact hd
  rw [carryOut_eq_outputs, Diff.intents, Loop.mem_outputs_append_iff,
    or_iff_left fun h => hdisarms h.2, Loop.mem_outputs_iff hids]
  simp only [Intent.exists_told?_iff]
  constructor
  · rintro ⟨i, hi, hall, hc⟩
    obtain ⟨a, ha, rfl⟩ := List.mem_map.mp hi
    obtain ⟨_, hdue, heq⟩ := Intent.command_arm_eq_ok_iff.mp hc
    obtain ⟨rfl, rfl⟩ := TimerCommand.schedule.inj heq
    refine ⟨a, ha, fun b hb hle => ?_, rfl, hdue⟩
    exact Intent.told?_arm_ne_none_iff.mp (hall _ (List.mem_map_of_mem hb) hle)
  · rintro ⟨a, ha, hall, rfl, hdue⟩
    refine ⟨.arm a, List.mem_map_of_mem ha, fun i hi hle => ?_,
      Intent.command_arm_eq_ok_iff.mpr ⟨due, hdue, rfl⟩⟩
    obtain ⟨b, hb, rfl⟩ := List.mem_map.mp hi
    exact Intent.told?_arm_ne_none_iff.mpr (hall b hb hle)

/-- **A timer is cancelled if all inserted alarms have a time to fire.** -/
theorem cancel_mem_carryOut_iff {id : Int64} :
    .cancel id ∈ (carryOut now lead d.intents).1 ↔
      (∀ b ∈ d.toInsert, ∃ due, firstFire now b.start lead = .ok due) ∧
        id ∈ d.toDelete.map (·.id) := by
  have harms : .cancel id ∉ Loop.outputs (Intent.told? now lead) (d.toInsert.map .arm) := by
    intro hmem
    obtain ⟨i, hi, hc⟩ := Loop.exists_of_mem_outputs hmem
    obtain ⟨a, -, rfl⟩ := List.mem_map.mp hi
    obtain ⟨due, -, heq⟩ := Intent.command_arm_eq_ok_iff.mp (Intent.exists_told?_iff.mp hc)
    cases heq
  rw [carryOut_eq_outputs, Diff.intents, Loop.mem_outputs_append_iff, or_iff_right harms,
    ← carryOut_eq_outputs, carryOut_disarms]
  simp only [List.forall_mem_map, Intent.told?_arm_ne_none_iff]
  simp only [List.mem_map, TimerCommand.cancel.injEq]

/-- All timers are set and cancelled exactly if every inserted alarm has a time to fire. -/
theorem carryOut_intents_eq_none_iff :
    (carryOut now lead d.intents).2 = none ↔
      ∀ a ∈ d.toInsert, ∃ due, firstFire now a.start lead = .ok due := by
  rw [carryOut_eq_none_iff]
  simp only [Diff.intents, List.mem_append, List.mem_map]
  constructor
  · intro h a ha
    obtain ⟨c, hc⟩ := h _ (.inl ⟨a, ha, rfl⟩)
    obtain ⟨due, hdue, -⟩ := Intent.command_arm_eq_ok_iff.mp hc
    exact ⟨due, hdue⟩
  · rintro h _ (⟨a, ha, rfl⟩ | ⟨a, -, rfl⟩)
    · obtain ⟨due, hdue⟩ := h a ha
      exact ⟨_, Intent.command_arm_eq_ok_iff.mpr ⟨due, hdue, rfl⟩⟩
    · exact ⟨_, rfl⟩

/-- No alarm is both to be armed and to be disarmed, or twice one of them. -/
theorem nodup_map_id_intents {store : Store} (hk : store.Keyed) {stored : List Alarm}
    (hall : store.all = .ok stored) (deviceTasks : List DeviceTask) :
    ((Diff.reconcile deviceTasks stored).intents.map Intent.id).Nodup := by
  rw [map_id_intents, List.nodup_append]
  refine ⟨Table.nodup_of_pairwise_lt Diff.pairwise_toInsert, ?_, ?_⟩
  · -- The deletions are some of the stored alarms, none of which has the id of another one.
    have hsorted : (stored.map (·.id)).Pairwise (· < ·) := by
      rw [← (Store.all_eq_ok_iff.mp hall).2]
      exact hk.alarms.pairwise_values
    exact (Table.nodup_of_pairwise_lt hsorted).sublist (List.filter_sublist.map _)
  · intro i hi j hj hij
    obtain ⟨a, ha, rfl⟩ := List.mem_map.mp hi
    obtain ⟨b, hb, rfl⟩ := List.mem_map.mp hj
    exact Diff.id_ne_of_mem ha hb hij

/-- No alarm gets two commands. -/
theorem nodup_map_id_carryOut {store : Store} (hk : store.Keyed) {stored : List Alarm}
    (hall : store.all = .ok stored) (deviceTasks : List DeviceTask) (now : Instant) (lead : Span) :
    ((carryOut now lead (Diff.reconcile deviceTasks stored).intents).1.map
      TimerCommand.id).Nodup :=
  (nodup_map_id_intents hk hall deviceTasks).sublist (map_id_carryOut_sublist now lead _)

/-! ### The ways in which a pass ends -/

/-- What is left behind once a diff has been committed. -/
def committed (view : View) (store : Store) (d : Diff) : Report where
  result :=
    match (carryOut view.now view.lead d.intents).2 with
    | none => .ok d
    | some e => .error (.range e)
  store := store.written d
  commands := (carryOut view.now view.lead d.intents).1

/-- The ways in which a pass ends. -/
inductive Outcome (view : View) (store : Store) : Report → Prop
  /-- The server did not answer. -/
  | unserved {e : SourceError} (hfetched : view.fetched = .error e) :
      Outcome view store ⟨.error (.source e), store, []⟩
  /-- The store could not be read, or refused the diff. -/
  | unstored {deviceTasks : List DeviceTask} {e : StoreError}
      (hfetched : view.fetched = .ok deviceTasks)
      (hstore : store.all = .error e ∨ ∃ stored, store.all = .ok stored ∧
        store.apply (Diff.reconcile deviceTasks stored) = .error e) :
      Outcome view store ⟨.error (.store e), store, []⟩
  /-- The diff was committed. -/
  | committed {deviceTasks : List DeviceTask} {stored : List Alarm} {store' : Store}
      (hfetched : view.fetched = .ok deviceTasks) (hall : store.all = .ok stored)
      (happly : store.apply (Diff.reconcile deviceTasks stored) = .ok store') :
      Outcome view store (committed view store (Diff.reconcile deviceTasks stored))

/-- Nothing follows an empty diff. -/
theorem committed_of_isEmpty (view : View) (store : Store) (h : d.isEmpty = true) :
    committed view store d = ⟨.ok d, store, []⟩ := by
  obtain ⟨hi, hd⟩ := d.isEmpty_iff.mp h
  have hwritten : store.written d = store :=
    (Store.eq_written_of_apply (store.apply_of_isEmpty h)).symm
  simp [committed, hwritten, Diff.intents, hi, hd, carryOut]

/-- A pass that finds nothing to change does nothing. -/
theorem run_of_isEmpty {view : View} {store : Store} {deviceTasks : List DeviceTask}
    {stored : List Alarm} (hfetched : view.fetched = .ok deviceTasks)
    (hall : store.all = .ok stored) (h : (Diff.reconcile deviceTasks stored).isEmpty = true) :
    run view store = ⟨.ok ⟨[], []⟩, store, []⟩ := by
  obtain ⟨hi, hd⟩ := (Diff.isEmpty_iff _).mp h
  have hdiff : Diff.reconcile deviceTasks stored = ⟨[], []⟩ := by
    rw [Diff.mk.injEq]
    exact ⟨hi, hd⟩
  rw [run, hfetched]
  dsimp only
  rw [hall]
  dsimp only
  rw [if_pos h, hdiff]

/-- **A pass ends in one of three ways.** -/
theorem outcome_run (view : View) (store : Store) : Outcome view store (run view store) := by
  rw [run]
  cases hf : view.fetched with
  | error e => exact .unserved hf
  | ok deviceTasks =>
    cases ha : store.all with
    | error e => exact .unstored hf (.inl ha)
    | ok stored =>
      dsimp only
      split
      · next hempty =>
        rw [← committed_of_isEmpty view store hempty]
        exact .committed hf ha (store.apply_of_isEmpty hempty)
      · cases hc : store.apply (Diff.reconcile deviceTasks stored) with
        | error e => exact .unstored hf (.inr ⟨stored, ha, hc⟩)
        | ok store' =>
          have h := Outcome.committed hf ha hc
          rw [committed, ← Store.eq_written_of_apply hc] at h
          dsimp only
          split
          · next hout =>
            simp only [hout] at h
            exact h
          · next hout =>
            simp only [hout] at h
            exact h

/-- A pass whose diff is committed leaves behind what follows the commit. -/
theorem run_eq_committed {view : View} {store store' : Store} {deviceTasks : List DeviceTask}
    {stored : List Alarm} (hfetched : view.fetched = .ok deviceTasks)
    (hall : store.all = .ok stored)
    (happly : store.apply (Diff.reconcile deviceTasks stored) = .ok store') :
    run view store = committed view store (Diff.reconcile deviceTasks stored) := by
  have hcases := outcome_run view store
  generalize run view store = r at hcases
  cases hcases with
  | unserved hf => exact absurd (hfetched.symm.trans hf) (by simp)
  | unstored hf hstore =>
    obtain rfl := Except.ok.inj (hfetched.symm.trans hf)
    rcases hstore with ha | ⟨l, ha, hc⟩
    · exact absurd (hall.symm.trans ha) (by simp)
    · obtain rfl := Except.ok.inj (hall.symm.trans ha)
      exact absurd (happly.symm.trans hc) (by simp)
  | committed hf ha _ =>
    obtain rfl := Except.ok.inj (hfetched.symm.trans hf)
    obtain rfl := Except.ok.inj (hall.symm.trans ha)
    rfl

/-- A pass keeps every alarm under its own id. -/
theorem keyed_run (view : View) {store : Store} (hk : store.Keyed) :
    (run view store).store.Keyed := by
  have hcases := outcome_run view store
  generalize run view store = r at hcases
  cases hcases with
  | unserved _ => exact hk
  | unstored _ _ => exact hk
  | committed _ _ _ => exact hk.written _

end Pass

end Household
