import Household.Proofs.Alarm.Passing
import Household.Proofs.Loop

/-!
# Setting the Timers After a Restart

After a restart the stored alarms are gone through by ascending id. One that has ended is passed
over, and of the others the timer is set. An alarm without an end, or without a time to fire, stalls
this: nothing is set for it or for those that come after it.

## Main results

* `endedBy_or_rearmsAt_or_stalls`: the three kinds of stored alarms.
* `schedule_mem_rearmAll_iff`: which timers are set.
* `filter_rearm_eq`: what is told of one stored alarm.
* `exists_rearmAll_eq_ok_iff`: all alarms are gone through exactly if none stalls.
-/

namespace Household

namespace Alarm

variable {now : Instant} {lead : Span} {a : Alarm}

/-- The run has not ended, and its alarm is due at this time. -/
def RearmsAt (now : Instant) (lead : Span) (due : Instant) (a : Alarm) : Prop :=
  a.HasEnd ∧ ¬ a.EndedBy now ∧ firstFire now a.start lead = .ok due

/-- It cannot be told whether the run has ended, or its alarm is due at no time. -/
def Stalls (now : Instant) (lead : Span) (a : Alarm) : Prop :=
  ¬ a.HasEnd ∨ ¬ a.EndedBy now ∧ ¬ ∃ due, firstFire now a.start lead = .ok due

/-- A stored alarm has ended, or its timer can be set, or it stalls the others. -/
theorem endedBy_or_rearmsAt_or_stalls (now : Instant) (lead : Span) (a : Alarm) :
    a.EndedBy now ∨ (∃ due, a.RearmsAt now lead due) ∨ a.Stalls now lead := by
  by_cases hend : a.HasEnd
  · by_cases hended : a.EndedBy now
    · exact .inl hended
    · by_cases hdue : ∃ due, firstFire now a.start lead = .ok due
      · obtain ⟨due, hdue⟩ := hdue
        exact .inr (.inl ⟨due, hend, hended, hdue⟩)
      · exact .inr (.inr (.inr ⟨hended, hdue⟩))
  · exact .inr (.inr (.inl hend))

end Alarm

variable {now : Instant} {lead : Span} {a : Alarm} {rows : List Alarm}

/-! ### Going through the alarms -/

/-- What the scheduler is told of an alarm after a restart, if that can be told. -/
def Alarm.rearm? (now : Instant) (lead : Span) (a : Alarm) : Option (List TimerCommand) :=
  match a.endTime with
  | .error _ => none
  | .ok finish =>
    if finish ≤ now then some []
    else
      match firstFire now a.start lead with
      | .error _ => none
      | .ok due => some [.schedule a.id due]

/-- The timers of stored alarms are set in a loop that stops at the first alarm that stalls. -/
theorem rearmAll_eq_outputs (now : Instant) (lead : Span) (rows : List Alarm) :
    (rearmAll now lead rows).1 = Loop.outputs (Alarm.rearm? now lead) rows := by
  induction rows with
  | nil => rfl
  | cons a rows ih =>
    rw [rearmAll, Loop.outputs, Alarm.rearm?, ← ih]
    cases a.endTime with
    | error e => rfl
    | ok finish =>
      dsimp only
      split
      · rfl
      · cases firstFire now a.start lead <;> rfl

/-- Nothing can be told of an alarm exactly if it stalls. -/
theorem Alarm.rearm?_eq_none_iff : a.rearm? now lead = none ↔ a.Stalls now lead := by
  rw [rearm?, Stalls, HasEnd, EndedBy]
  cases a.endTime with
  | error e => simp
  | ok finish =>
    by_cases hended : finish ≤ now
    · simp [hended]
    · cases firstFire now a.start lead <;> simp [hended]

/-- What is told of an alarm is when its timer is due. -/
theorem Alarm.exists_rearm?_iff {c : TimerCommand} :
    (∃ cs, a.rearm? now lead = some cs ∧ c ∈ cs) ↔
      ∃ due, c = .schedule a.id due ∧ a.RearmsAt now lead due := by
  rw [rearm?]
  simp only [RearmsAt, HasEnd, EndedBy]
  cases a.endTime with
  | error e => simp
  | ok finish =>
    by_cases hended : finish ≤ now
    · simp [hended]
    · cases firstFire now a.start lead <;> simp [hended]

/-- An alarm is passed over exactly if it has ended. -/
theorem Alarm.rearm?_eq_some_nil_iff : a.rearm? now lead = some [] ↔ a.EndedBy now := by
  rw [rearm?, EndedBy]
  cases a.endTime with
  | error e => simp
  | ok finish =>
    by_cases hended : finish ≤ now
    · simp [hended]
    · cases firstFire now a.start lead <;> simp [hended]

/-- The timer of an alarm is set for the time at which it is due, unless it has ended. -/
theorem Alarm.rearm?_eq_some_schedule_iff {due : Instant} :
    a.rearm? now lead = some [.schedule a.id due] ↔ a.RearmsAt now lead due := by
  rw [rearm?]
  simp only [RearmsAt, HasEnd, EndedBy]
  cases a.endTime with
  | error e => simp
  | ok finish =>
    by_cases hended : finish ≤ now
    · simp [hended]
    · cases firstFire now a.start lead <;> simp [hended]

/-- What is told of an alarm is told under its id. -/
theorem Alarm.id_of_mem_rearm? {cs : List TimerCommand} (h : a.rearm? now lead = some cs)
    {c : TimerCommand} (hc : c ∈ cs) : c.id = a.id := by
  obtain ⟨due, rfl, -⟩ := exists_rearm?_iff.mp ⟨cs, h, hc⟩
  rfl

/-- Only timers of stored alarms are set. -/
theorem exists_of_mem_rearmAll {c : TimerCommand} (h : c ∈ (rearmAll now lead rows).1) :
    ∃ a ∈ rows, ∃ due, c = .schedule a.id due ∧ a.RearmsAt now lead due := by
  rw [rearmAll_eq_outputs] at h
  obtain ⟨a, ha, hc⟩ := Loop.exists_of_mem_outputs h
  exact ⟨a, ha, Alarm.exists_rearm?_iff.mp hc⟩

/-- **The timers set are those of the alarms that have not ended, up to the first one that
stalls.** -/
theorem schedule_mem_rearmAll_iff (hrows : (rows.map (·.id)).Pairwise (· < ·)) {id : Int64}
    {due : Instant} :
    .schedule id due ∈ (rearmAll now lead rows).1 ↔
      ∃ a ∈ rows, (∀ b ∈ rows, b.id ≤ a.id → ¬ b.Stalls now lead) ∧
        a.id = id ∧ a.RearmsAt now lead due := by
  rw [rearmAll_eq_outputs, Loop.mem_outputs_iff hrows]
  simp only [Alarm.exists_rearm?_iff, ne_eq, Alarm.rearm?_eq_none_iff]
  constructor
  · rintro ⟨a, ha, hall, _, heq, hdue⟩
    obtain ⟨rfl, rfl⟩ := TimerCommand.schedule.inj heq
    exact ⟨a, ha, hall, rfl, hdue⟩
  · rintro ⟨a, ha, hall, rfl, hdue⟩
    exact ⟨a, ha, hall, due, rfl, hdue⟩

/-- The alarms are all gone through exactly if none stalls. -/
theorem exists_rearmAll_eq_ok_iff :
    (∃ n, (rearmAll now lead rows).2 = .ok n) ↔ ∀ a ∈ rows, ¬ a.Stalls now lead := by
  induction rows with
  | nil => simp [rearmAll]
  | cons a rows ih =>
    rw [List.forall_mem_cons, ← ih, ← Alarm.rearm?_eq_none_iff, rearmAll, Alarm.rearm?]
    cases a.endTime with
    | error e => simp
    | ok finish =>
      by_cases hended : finish ≤ now
      · simp [hended]
      · dsimp only
        rw [if_neg hended, if_neg hended]
        cases firstFire now a.start lead with
        | error e => simp
        | ok due =>
          dsimp only
          cases (rearmAll now lead rows).2 <;> simp [Except.map]

/-- No timer is set twice. -/
theorem nodup_map_id_rearmAll (hrows : (rows.map (·.id)).Pairwise (· < ·)) :
    ((rearmAll now lead rows).1.map TimerCommand.id).Nodup := by
  rw [rearmAll_eq_outputs]
  refine (Loop.map_outputs_sublist (fun a cs hcs => ?_) rows).nodup
    (Table.nodup_of_pairwise_lt hrows)
  rw [Alarm.rearm?] at hcs
  split at hcs
  · cases hcs
  · split at hcs
    · obtain rfl := Option.some.inj hcs
      exact List.nil_sublist _
    · split at hcs
      · cases hcs
      · obtain rfl := Option.some.inj hcs
        exact List.Sublist.refl _

/-- **What is told of one stored alarm** does not depend on the others, if none with a lower id
stalls. -/
theorem filter_rearm_eq {store : Store} (hk : store.Keyed) {id : Int64}
    (ha : store.load id = .ok (some a)) {cs : List TimerCommand}
    (hall : ∀ b, b.id < id → store.load b.id = .ok (some b) → ¬ b.Stalls now lead)
    (hcs : a.rearm? now lead = some cs) : (rearm now lead store).1.filter (·.id = id) = cs := by
  obtain ⟨hopen, hget⟩ := Store.load_eq_ok_iff.mp ha
  have hstored : store.all = .ok store.alarms.values := Store.all_eq_ok_iff.mpr ⟨hopen, rfl⟩
  obtain rfl := hk.alarms id a hget
  rw [rearm, hstored]
  dsimp only
  rw [rearmAll_eq_outputs]
  refine Loop.filter_outputs_eq (fun _ _ h _ => Alarm.id_of_mem_rearm? h)
    hk.alarms.pairwise_values (hk.alarms.mem_values_iff.mpr hget) (fun b hb hlt => ?_) hcs
  rw [Ne, Alarm.rearm?_eq_none_iff]
  exact hall b hlt (Store.load_eq_ok_iff.mpr ⟨hopen, hk.alarms.mem_values_iff.mp hb⟩)

end Household
