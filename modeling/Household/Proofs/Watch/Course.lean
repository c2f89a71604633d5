import Household.Proofs.Watch.Coverage

/-!
# Courses

A course is what happens to a watch from its start on, leg by leg. Each leg is one move that runs to
completion. Here a fired alarm is taken off the queue also when the store does not answer: nothing
is shown for it then, and the next one has its turn.

What a leg does to one id is said once, by `Effect`; what a course preserves follows from that.

## Main results

* `effect_of_proceed?`: all that a move can do to an id.
* `handle?_of_dispatch?`: with a store that answers, handling is what it is for `step?`.
-/

namespace Household.Watch

variable {lead : Span} {zone : Zone} {start w w' : Watch} {id : Int64}

/-! ### Handling, also with a store that does not answer -/

/-- What the handling of the first fired alarm shows, and for which id. -/
def told? (zone : Zone) (w : Watch) : Option (Int64 × Notice) :=
  match w.queue with
  | [] => none
  | id :: _ =>
    match (Firing.handle zone (.of w.store w.now id)).result with
    | .ok notice => notice.map (id, ·)
    | .error _ => none

/-- The first alarm of the queue is handled, or dropped if the store does not answer. -/
def handle? (zone : Zone) (w : Watch) : Option Watch :=
  match w.queue with
  | [] => none
  | id :: queue =>
    let report := Firing.handle zone (.of w.store w.now id)
    match report.result with
    | .error (.range _) => none
    | _ =>
      some (obeyAll { w with queue, log := report.messages.map (.shown id) ++ w.log }
        report.commands)

/-- One move, if it runs to completion. -/
def proceed? (lead : Span) (zone : Zone) (w : Watch) : Move → Option Watch
  | .dispatch => w.handle? zone
  | m => w.step? lead zone m

/-- With a store that answers, handling is what it is for `step?`. -/
theorem handle?_of_dispatch? (h : w.dispatch? zone = some w') : w.handle? zone = some w' := by
  rw [dispatch?] at h
  rw [handle?]
  cases hq : w.queue with
  | nil =>
    rw [hq] at h
    cases h
  | cons k queue =>
    rw [hq] at h
    dsimp only at h ⊢
    split at h
    · next hok =>
      rw [hok]
      exact h
    · cases h

/-- A fired alarm is taken off the queue without a word, or says what it has to say, and its timer
is set again for a start that is still to come. -/
theorem handle?_cases (h : w.handle? zone = some w') :
    ∃ k queue, w.queue = k :: queue ∧
      (w.told? zone = none ∧ w' = { w with queue } ∨
        ∃ a notice, w.store.alarms.get? k = some a ∧ Notice.forAlarm a w.now = .ok notice ∧
          w.told? zone = some (k, notice) ∧
          w' = obeyAll { w with queue, log := .shown k (notice.message zone) :: w.log }
            (if w.now < a.start then [.schedule a.id a.start] else [])) := by
  rw [handle?] at h
  cases hq : w.queue with
  | nil =>
    rw [hq] at h
    cases h
  | cons k queue =>
    rw [hq] at h
    refine ⟨k, queue, rfl, ?_⟩
    have htold : w.told? zone =
        match (Firing.handle zone (.of w.store w.now k)).result with
        | .ok notice => notice.map (k, ·)
        | .error _ => none := by
      rw [told?, hq]
    rw [htold]
    dsimp only at h
    cases hloaded : w.store.load k with
    | error e =>
      have hreport : Firing.handle zone (.of w.store w.now k) = ⟨[], [], .error (.store e)⟩ := by
        rw [Firing.handle, Firing.Finding.of, hloaded]
      rw [hreport] at h ⊢
      exact .inl ⟨rfl, (Option.some.inj h).symm⟩
    | ok stored =>
      have halarm := (Store.load_eq_ok_iff.mp hloaded).2
      cases stored with
      | none =>
        have hreport : Firing.handle zone (.of w.store w.now k) = ⟨[], [], .ok none⟩ := by
          rw [Firing.handle, Firing.Finding.of, hloaded]
        rw [hreport] at h ⊢
        exact .inl ⟨rfl, (Option.some.inj h).symm⟩
      | some a =>
        cases hnotice : Notice.forAlarm a w.now with
        | error e =>
          have hreport : Firing.handle zone (.of w.store w.now k) =
              ⟨[], [], .error (.range e)⟩ := by
            rw [Firing.handle, Firing.Finding.of, hloaded]
            dsimp only
            rw [hnotice]
          rw [hreport] at h
          cases h
        | ok notice =>
          have hreport := Firing.handle_of_loaded zone (f := .of w.store w.now k) hloaded hnotice
          rw [hreport] at h ⊢
          exact .inr ⟨a, notice, halarm, hnotice, rfl, (Option.some.inj h).symm⟩

/-! ### Legs -/

/-- A move that has run to completion, with the watches before and after it. -/
structure Leg where
  before : Watch
  move : Move
  after : Watch

namespace Leg

/-- What is shown for an id. -/
def notice? (zone : Zone) (id : Int64) (l : Leg) : Option Notice :=
  match l.move with
  | .dispatch => (l.before.told? zone).bind fun told => if told.1 = id then some told.2 else none
  | _ => none

/-- The id gets an alarm. -/
def Inserts (id : Int64) (l : Leg) : Prop :=
  l.before.store.alarms.get? id = none ∧ ∃ a, l.after.store.alarms.get? id = some a

/-- The id loses its alarm. -/
def Deletes (id : Int64) (l : Leg) : Prop :=
  (∃ a, l.before.store.alarms.get? id = some a) ∧ l.after.store.alarms.get? id = none

instance (id : Int64) : DecidablePred (Inserts id) := fun l =>
  decidable_of_iff
    ((l.before.store.alarms.get? id).isNone ∧ (l.after.store.alarms.get? id).isSome)
    (and_congr Option.isNone_iff_eq_none Option.isSome_iff_exists)

instance (id : Int64) : DecidablePred (Deletes id) := fun l =>
  decidable_of_iff
    ((l.before.store.alarms.get? id).isSome ∧ (l.after.store.alarms.get? id).isNone)
    (and_congr Option.isSome_iff_exists Option.isNone_iff_eq_none)

end Leg

/-- What is shown for an id on the way, the last first. -/
def notices (zone : Zone) (id : Int64) (legs : List Leg) : List Notice :=
  legs.filterMap (·.notice? zone id)

/-- The legs that lead from one watch to another, the last first. -/
inductive Course (lead : Span) (zone : Zone) (start : Watch) : List Leg → Watch → Prop
  | stay : Course lead zone start [] start
  | go {legs : List Leg} {w w' : Watch} {m : Move} : Course lead zone start legs w →
      w.proceed? lead zone m = some w' → Course lead zone start (⟨w, m, w'⟩ :: legs) w'

/-! ### What a move does to an id -/

/-- Away from leap seconds a timer fires no sooner than it is due. -/
theorem due_le_of_nap?_eq_none {longest : Span} {due now : Instant} (hdue : due.isLeap = false)
    (hnow : now.isLeap = false) (h : nap? longest due now = none) : due ≤ now := by
  rw [nap?_eq_none_iff, Instant.nanos_since hdue hnow] at h
  rw [Instant.le_iff_nanos_le hdue hnow]
  omega

/-- When the timer of an id is due, if it is set. -/
def due? (w : Watch) (id : Int64) : Option Instant :=
  (w.timers.waiting.get? id).map (·.due)

/-- What a move can do to an id. -/
inductive Effect (lead : Span) (zone : Zone) (id : Int64) (w : Watch) (m : Move) (w' : Watch) : Prop
  /-- Nothing. -/
  | spared (halarm : w'.store.alarms.get? id = w.store.alarms.get? id)
      (hdue : w'.due? id = w.due? id) (hqueue : w'.queue.count id = w.queue.count id)
      (hnotice : Leg.notice? zone id ⟨w, m, w'⟩ = none)
  /-- A pass puts a listed alarm into the table and sets its timer. -/
  | inserted {deviceTasks : List DeviceTask} {a : Alarm} {due : Instant}
      (hmove : m = .pass (.ok deviceTasks)) (hlisted : a ∈ Diff.alarmsOf deviceTasks)
      (hbefore : w.store.alarms.get? id = none)
      (halarm : w'.store.alarms.get? id = some (w.store.keep a))
      (hfire : firstFire w.now a.start lead = .ok due) (hdue : w'.due? id = some due)
      (hqueue : w'.queue = w.queue) (hnow : w'.now = w.now)
      (hnotice : Leg.notice? zone id ⟨w, m, w'⟩ = none)
  /-- A pass takes the alarm out of the table and cancels its timer. -/
  | deleted {a : Alarm} (hbefore : w.store.alarms.get? id = some a)
      (halarm : w'.store.alarms.get? id = none) (hdue : w'.due? id = none)
      (hqueue : w'.queue = w.queue) (hnotice : Leg.notice? zone id ⟨w, m, w'⟩ = none)
  /-- The timer fires. -/
  | fired {t : Timer} (ht : w.timers.waiting.get? id = some t)
      (hnap : nap? w.timers.longestNap t.due w.now = none)
      (halarm : w'.store.alarms.get? id = w.store.alarms.get? id) (hdue : w'.due? id = none)
      (hqueue : w'.queue = w.queue ++ [id]) (hnow : w'.now = w.now)
      (hnotice : Leg.notice? zone id ⟨w, m, w'⟩ = none)
  /-- The fired alarm is taken off the queue without a word. -/
  | dropped (halarm : w'.store.alarms.get? id = w.store.alarms.get? id)
      (hdue : w'.due? id = w.due? id) (hqueue : w.queue = id :: w'.queue)
      (hnow : w'.now = w.now) (hnotice : Leg.notice? zone id ⟨w, m, w'⟩ = none)
  /-- The fired alarm says what it has to say, and its timer is set for a start still to come. -/
  | handled {a : Alarm} {notice : Notice} (hbefore : w.store.alarms.get? id = some a)
      (halarm : w'.store.alarms.get? id = some a) (hspeaks : Notice.forAlarm a w.now = .ok notice)
      (hdue : w'.due? id = if w.now < a.start then some a.start else w.due? id)
      (hqueue : w.queue = id :: w'.queue) (hnow : w'.now = w.now)
      (hnotice : Leg.notice? zone id ⟨w, m, w'⟩ = some notice)
  /-- A restart leaves only the timers that it sets. -/
  | restarted (hmove : m = .restart)
      (halarm : w'.store.alarms.get? id = w.store.alarms.get? id) (hqueue : w'.queue = [])
      (hdue : ∀ due, w'.due? id = some due →
        ∃ a, w.store.alarms.get? id = some a ∧ a.RearmsAt w.now lead due)
      (hnow : w'.now = w.now) (hnotice : Leg.notice? zone id ⟨w, m, w'⟩ = none)

/-- What a pass does to an id. -/
theorem effect_of_pass? (hk : w.store.Keyed) {fetched : Except SourceError (List DeviceTask)}
    (h : w.pass? lead fetched = some w') (id : Int64) :
    Effect lead zone id w (.pass fetched) w' := by
  rcases pass?_cases h with rfl | ⟨deviceTasks, stored, rfl, hall, hdue, rfl⟩
  · exact .spared rfl rfl rfl rfl
  rw [Pass.carryOut_intents_eq_none_iff] at hdue
  have hn := Pass.nodup_map_id_carryOut hk hall deviceTasks w.now lead
  have hids : ∀ k, k ∈ stored.map (·.id) ↔ ∃ a, w.store.alarms.get? k = some a := fun k => by
    rw [← (Store.all_eq_ok_iff.mp hall).2, hk.alarms.mem_map_values_iff]
  by_cases hins : id ∈ (Diff.reconcile deviceTasks stored).toInsert.map (·.id)
  · obtain ⟨a, ha, rfl⟩ := List.mem_map.mp hins
    obtain ⟨due, hfire⟩ := hdue a ha
    have hmem := (Pass.schedule_mem_carryOut_iff Diff.pairwise_toInsert).mpr
      ⟨a, ha, fun b hb _ => hdue b hb, rfl, hfire⟩
    have hbefore : w.store.alarms.get? a.id = none :=
      Option.eq_none_iff_forall_ne_some.mpr fun b hb =>
        (Diff.mem_toInsert_iff.mp ha).2 ((hids a.id).mpr ⟨b, hb⟩)
    refine .inserted rfl (Diff.mem_alarmsOf_of_mem_toInsert ha) hbefore ?_ hfire ?_
      (queue_obeyAll _ _) (now_obeyAll _ _) rfl
    · rw [store_obeyAll, Store.get?_alarms_written, if_neg (Diff.not_mem_map_toDelete ha),
        Diff.find?_reverse_toInsert_eq_some ha]
      rfl
    · rw [due?, (timer_of_schedule_mem hn hmem _).1]
      rfl
  have hnone := Diff.find?_reverse_toInsert_eq_none hins
  by_cases hdel : id ∈ (Diff.reconcile deviceTasks stored).toDelete.map (·.id)
  · obtain ⟨a, ha⟩ := (hids id).mp (Diff.mem_map_toDelete_iff.mp hdel).1
    refine .deleted ha ?_ ?_ (queue_obeyAll _ _) rfl
    · rw [store_obeyAll, Store.get?_alarms_written, if_pos hdel]
    · rw [due?, timer_of_cancel_mem hn (Pass.cancel_mem_carryOut_iff.mpr ⟨hdue, hdel⟩)]
      rfl
  · have hnot : id ∉ (Pass.carryOut w.now lead
        (Diff.reconcile deviceTasks stored).intents).1.map TimerCommand.id := by
      intro hmem
      have hid := (Pass.map_id_carryOut_sublist w.now lead _).subset hmem
      rw [Pass.map_id_intents, List.mem_append] at hid
      exact hid.elim hins hdel
    refine .spared ?_ ?_ (congrArg (List.count id) (queue_obeyAll _ _)) rfl
    · rw [store_obeyAll, Store.get?_alarms_written, if_neg hdel, hnone]
      rfl
    · rw [due?, (same_obeyAll hnot _).timer]
      rfl

/-- What the look of a timer at the clock does to an id. -/
theorem effect_of_wake (w : Watch) (k id : Int64) :
    Effect lead zone id w (.wake k) (w.wake k) := by
  rw [wake, Timers.look]
  cases ht : w.timers.waiting.get? k with
  | none => exact .spared rfl rfl rfl rfl
  | some t =>
    dsimp only
    by_cases hk : k = id
    · subst hk
      cases hnap : nap? w.timers.longestNap t.due w.now with
      | none =>
        refine .fired ht hnap rfl ?_ rfl rfl rfl
        simp [due?, Timers.cancel]
      | some d =>
        refine .spared rfl ?_ rfl rfl
        simp [due?, ht]
    · cases hnap : nap? w.timers.longestNap t.due w.now with
      | none =>
        refine .spared rfl ?_ ?_ rfl
        · simp [due?, Timers.cancel, hk]
        · simp [hk]
      | some d =>
        refine .spared rfl ?_ rfl rfl
        simp [due?, hk]

/-- What the handling of the first fired alarm does to an id. -/
theorem effect_of_handle? (hk : w.store.Keyed) (h : w.handle? zone = some w') (id : Int64) :
    Effect lead zone id w .dispatch w' := by
  obtain ⟨k, queue, hq, ⟨htold, rfl⟩ | ⟨a, notice, halarm, hspeaks, htold, rfl⟩⟩ := handle?_cases h
  · have hnotice : ∀ w', Leg.notice? zone id ⟨w, .dispatch, w'⟩ = none := fun w' => by
      rw [Leg.notice?, htold]
      rfl
    by_cases hid : k = id
    · subst hid
      exact .dropped rfl rfl hq rfl (hnotice _)
    · refine .spared rfl rfl ?_ (hnotice _)
      rw [hq, List.count_cons_of_ne hid]
  · have hnotice : ∀ w', Leg.notice? zone id ⟨w, .dispatch, w'⟩ =
        if k = id then some notice else none := fun w' => by
      rw [Leg.notice?, htold]
      rfl
    obtain rfl := hk.alarms k a halarm
    by_cases hid : a.id = id
    · subst hid
      refine .handled halarm ?_ hspeaks ?_ ?_ (now_obeyAll _ _) ((hnotice _).trans (if_pos rfl))
      · rw [store_obeyAll]
        exact halarm
      · split
        · simp [due?, obeyAll, obey, Timers.schedule]
        · rfl
      · rw [queue_obeyAll]
        exact hq
    · refine .spared (by rw [store_obeyAll]) ?_ ?_ ((hnotice _).trans (if_neg hid))
      · have hnot : id ∉ (if w.now < a.start then [TimerCommand.schedule a.id a.start] else []).map
            TimerCommand.id := by
          split
          · simpa [TimerCommand.id] using Ne.symm hid
          · exact List.not_mem_nil
        rw [due?, (same_obeyAll hnot _).timer]
        rfl
      · rw [queue_obeyAll, hq, List.count_cons_of_ne hid]

/-- A restart leaves only the timers of stored alarms that it sets. -/
theorem exists_rearmsAt_of_restart? (hk : w.store.Keyed) (h : w.restart? lead = some w')
    {due : Instant} (hdue : w'.due? id = some due) :
    ∃ a, w.store.alarms.get? id = some a ∧ a.RearmsAt w.now lead due := by
  obtain ⟨stored, hall, hstalls, rfl⟩ := restart?_cases h
  obtain ⟨-, rfl⟩ := Store.all_eq_ok_iff.mp hall
  have hkeyed := hk.alarms
  by_cases harmed : ∃ a ∈ w.store.alarms.values, a.id = id ∧ ∃ due, a.RearmsAt w.now lead due
  · obtain ⟨a, ha, rfl, due', hrearms⟩ := harmed
    have hmem := (schedule_mem_rearmAll_iff hkeyed.pairwise_values).mpr
      ⟨a, ha, fun b hb _ => hstalls b hb, rfl, hrearms⟩
    rw [due?, (timer_of_schedule_mem (nodup_map_id_rearmAll hkeyed.pairwise_values) hmem _).1]
      at hdue
    obtain rfl := Option.some.inj hdue
    exact ⟨a, hkeyed.mem_values_iff.mp ha, hrearms⟩
  · have hnot : id ∉ (rearmAll w.now lead w.store.alarms.values).1.map TimerCommand.id := by
      intro hmem
      obtain ⟨c, hc, rfl⟩ := List.mem_map.mp hmem
      obtain ⟨a, ha, due, rfl, hrearms⟩ := exists_of_mem_rearmAll hc
      exact harmed ⟨a, ha, rfl, due, hrearms⟩
    rw [due?, (same_obeyAll hnot _).timer] at hdue
    cases hdue

/-- What a restart does to an id. -/
theorem effect_of_restart? (hk : w.store.Keyed) (h : w.restart? lead = some w') (id : Int64) :
    Effect lead zone id w .restart w' := by
  have hdue : ∀ due, w'.due? id = some due →
      ∃ a, w.store.alarms.get? id = some a ∧ a.RearmsAt w.now lead due :=
    fun _ => exists_rearmsAt_of_restart? hk h
  obtain ⟨stored, -, -, rfl⟩ := restart?_cases h
  exact .restarted rfl (by rw [store_obeyAll]) (queue_obeyAll _ _) hdue (now_obeyAll _ _) rfl

/-- **All that a move can do to an id.** -/
theorem effect_of_proceed? (hk : w.store.Keyed) {m : Move}
    (h : w.proceed? lead zone m = some w') (id : Int64) : Effect lead zone id w m w' := by
  cases m with
  | pass fetched => exact effect_of_pass? hk h id
  | wake k =>
    obtain rfl := Option.some.inj h
    exact effect_of_wake w k id
  | dispatch => exact effect_of_handle? hk h id
  | clock now elapsed =>
    obtain rfl := Option.some.inj h
    exact .spared rfl rfl rfl rfl
  | trouble outage? refusedWrites refusedDeletes =>
    obtain rfl := Option.some.inj h
    refine .spared ?_ rfl rfl rfl
    rw [Store.alarms_troubled]
  | restart => exact effect_of_restart? hk h id

/-- Only the handling of a fired alarm that is stored shows something. -/
theorem Effect.exists_of_notice {m : Move} (heffect : Effect lead zone id w m w') {notice : Notice}
    (hshown : Leg.notice? zone id ⟨w, m, w'⟩ = some notice) :
    ∃ a, w.store.alarms.get? id = some a ∧ Notice.forAlarm a w.now = .ok notice ∧
      w'.due? id = (if w.now < a.start then some a.start else w.due? id) ∧
      w.queue = id :: w'.queue := by
  cases heffect with
  | spared _ _ _ hnotice => cases hnotice.symm.trans hshown
  | inserted _ _ _ _ _ _ _ _ hnotice => cases hnotice.symm.trans hshown
  | deleted _ _ _ _ hnotice => cases hnotice.symm.trans hshown
  | fired _ _ _ _ _ _ hnotice => cases hnotice.symm.trans hshown
  | dropped _ _ _ _ hnotice => cases hnotice.symm.trans hshown
  | restarted _ _ _ _ _ hnotice => cases hnotice.symm.trans hshown
  | @handled a _ hbefore _ hspeaks hdue hqueue _ hnotice =>
    obtain rfl := Option.some.inj (hnotice.symm.trans hshown)
    exact ⟨a, hbefore, hspeaks, hdue, hqueue⟩

/-- A move keeps every alarm under its own id. -/
theorem keyed_of_proceed? (hk : w.store.Keyed) {m : Move}
    (h : w.proceed? lead zone m = some w') : w'.store.Keyed := by
  cases m with
  | pass fetched =>
    rcases pass?_cases h with rfl | ⟨deviceTasks, stored, -, -, -, rfl⟩
    · exact hk
    · rw [store_obeyAll]
      exact hk.written _
  | wake k =>
    obtain rfl := Option.some.inj h
    exact hk
  | dispatch =>
    obtain ⟨k, queue, -, ⟨-, rfl⟩ | ⟨a, notice, -, -, -, rfl⟩⟩ := handle?_cases h
    · exact hk
    · rw [store_obeyAll]
      exact hk
  | clock now elapsed =>
    obtain rfl := Option.some.inj h
    exact hk
  | trouble outage? refusedWrites refusedDeletes =>
    obtain rfl := Option.some.inj h
    exact hk.troubled _ _ _
  | restart =>
    obtain ⟨stored, -, -, rfl⟩ := restart?_cases h
    rw [store_obeyAll]
    exact hk

/-! ### The end of a run -/

/-- Five past noon, when the washer's run at noon ends. -/
def fivePastNoon : Instant :=
  { Instant.epoch with
    second := 1705320300
    first_le := by decide
    le_last := by decide
    leap_last := by decide }

end Household.Watch
