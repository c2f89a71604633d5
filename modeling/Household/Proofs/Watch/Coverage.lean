import Household.Proofs.Alarm.Convergence
import Household.Proofs.Alarm.Handling
import Household.Proofs.Alarm.Rearming
import Household.Proofs.Watch.Obeying

/-!
# No Stored Alarm Is Lost

Over a whole run every stored alarm is accounted for: its timer is set, or it has fired and waits to
be handled, or its start-now message was shown after its timer was last set, or its run had ended
when the program was last started. No timer outlives its alarm, and none is due too late.

`Covers` is all that is promised of one id. A move keeps it up since it leaves most ids as they are,
and sets the timers of those that it puts into the table. Only a restart takes timers away from
alarms that stay; it sets them again, but for those that have ended.

## Main results

* `covers_pass`, `covers_wake`, `covers_dispatch`, `covers_restart`: each move keeps up what is
  promised.
* `Reachable.covered`: what holds of every watch that a run leads to.
* `exists_step?_eq_some`: within reach every move runs to completion while the store answers.
-/

namespace Household.Watch

variable {lead : Span} {zone : Zone} {w w' : Watch} {id : Int64}

/-! ### What is promised of an id -/

/-- The start-now message of the alarm was shown after its timer was last set. -/
def Started (zone : Zone) (w : Watch) (id : Int64) (a : Alarm) : Prop :=
  ∃ finish, a.endTime = .ok finish ∧
    .shown id ((Notice.startNow a.deviceName finish).message zone) ∈ since id w.log

/-- What is promised of an id. -/
structure Covers (zone : Zone) (w : Watch) (id : Int64) : Prop where
  /-- Its alarm is accounted for. -/
  stored : ∀ a, w.store.alarms.get? id = some a →
    (∃ t, w.timers.waiting.get? id = some t) ∨ id ∈ w.queue ∨ w.Started zone id a ∨
      a.EndedBy w.restarted
  /-- Its timer is that of an alarm, and due no later than its start and than when it was set. -/
  timely : ∀ t, w.timers.waiting.get? id = some t →
    ∃ a moment, w.made.get? id = some a ∧
      w.log.find? (·.arms id) = some (.armed id t.due moment) ∧ t.due ≤ max a.start moment

/-- What is promised of an id is kept by all that leaves the id as it is. -/
theorem Covers.of_same (h : w.Covers zone id) (hsame : Same id w w') : w'.Covers zone id := by
  refine ⟨fun a ha => ?_, fun t ht => ?_⟩
  · rw [hsame.alarm] at ha
    rw [hsame.timer, hsame.restarted]
    rcases h.stored a ha with harmed | hqueue | ⟨finish, hfinish, hshown⟩ | hended
    · exact .inl harmed
    · exact .inr (.inl (hsame.queue hqueue))
    · exact .inr (.inr (.inl ⟨finish, hfinish, hsame.since _ hshown⟩))
    · exact .inr (.inr (.inr hended))
  · rw [hsame.timer] at ht
    rw [hsame.made, hsame.armed]
    exact h.timely t ht

/-- Nothing is to be done for an id without alarm and timer. -/
theorem covers_of_absent (halarm : w.store.alarms.get? id = none)
    (htimer : w.timers.waiting.get? id = none) : w.Covers zone id where
  stored a ha := absurd (halarm.symm.trans ha) (by simp)
  timely t ht := absurd (htimer.symm.trans ht) (by simp)

/-- A timer that has just been set accounts for its alarm. -/
theorem covers_of_schedule_mem {cs : List TimerCommand} (hn : (cs.map TimerCommand.id).Nodup)
    {due : Instant} (h : .schedule id due ∈ cs) {a : Alarm} (hmade : w.made.get? id = some a)
    (hdue : due ≤ max a.start w.now) : (w.obeyAll cs).Covers zone id := by
  obtain ⟨htimer, hlog⟩ := timer_of_schedule_mem hn h w
  refine ⟨fun _ _ => .inl ⟨_, htimer⟩, fun t ht => ?_⟩
  obtain rfl := Option.some.inj (htimer.symm.trans ht)
  exact ⟨a, w.now, (w.made_obeyAll cs).symm ▸ hmade, hlog, hdue⟩

/-! ### Alarms and what the store keeps of them -/

/-- A stored alarm was made, and the store keeps it. -/
theorem Founded.alarm_eq_some_iff (h : w.Founded lead) {a : Alarm} :
    w.store.alarms.get? id = some a ↔ ∃ b, w.made.get? id = some b ∧ w.store.keep b = a := by
  rw [h.alarms_eq, Table.get?_map, Option.map_eq_some_iff]

/-- What is promised holds of no timer without an alarm. -/
theorem Covers.timer_eq_none (h : w.Covers zone id) (hf : w.Founded lead)
    (halarm : w.store.alarms.get? id = none) : w.timers.waiting.get? id = none := by
  refine Option.eq_none_iff_forall_ne_some.mpr fun t ht => ?_
  obtain ⟨a, _, hmade, -⟩ := h.timely t ht
  exact absurd (halarm.symm.trans (hf.alarm_eq_some_iff.mpr ⟨a, hmade, rfl⟩)) (by simp)

/-- The store does not put off a start. -/
theorem start_keep_le (s : Store) {a : Alarm} (h : a.start.isLeap = false) :
    (s.keep a).start.isLeap = false ∧ (s.keep a).start ≤ a.start := by
  cases s with
  | memory alarms => exact ⟨h, le_refl _⟩
  | database db => exact ⟨(Alarm.nanos_start_stored h).1, Alarm.start_stored_le h⟩

/-- The timer of an alarm is due no later than its start and than when it is set. -/
theorem firstFire_le_max (hlead : 0 ≤ lead.nanos) {now start due : Instant}
    (hleap : start.isLeap = false) (h : firstFire now start lead = .ok due) :
    due ≤ max start now := by
  obtain ⟨ahead, hahead, rfl⟩ := firstFire_eq_ok_iff_max.mp h
  have hle : ahead ≤ start := Instant.le_of_sub_eq_ok hleap hlead hahead
  exact max_le (le_max_right _ _) (hle.trans (le_max_left _ _))

/-- What is promised of the foundation is a matter of the stored alarms. -/
theorem Founded.congr (h : w.Founded lead) (hstore : w'.store = w.store)
    (hmade : w'.made = w.made) : w'.Founded lead := by
  refine ⟨?_, ?_, ?_⟩
  · rw [hstore]
    exact h.keyed
  · rw [hstore, hmade]
    exact h.alarms_eq
  · rw [hmade]
    exact h.inReach

/-! ### Passes -/

/-- A pass that runs to completion leaves everything as it was, or commits its diff and sets all
timers. -/
theorem pass?_cases {fetched : Except SourceError (List DeviceTask)}
    (h : w.pass? lead fetched = some w') :
    w' = w ∨ ∃ deviceTasks stored, fetched = .ok deviceTasks ∧ w.store.all = .ok stored ∧
      (Pass.carryOut w.now lead (Diff.reconcile deviceTasks stored).intents).2 = none ∧
      w' = obeyAll
        { w with
          store := w.store.written (Diff.reconcile deviceTasks stored)
          made := Store.applyDiff w.made (Diff.reconcile deviceTasks stored) }
        (Pass.carryOut w.now lead (Diff.reconcile deviceTasks stored).intents).1 := by
  have hcases := Pass.outcome_run ⟨fetched, w.now, lead⟩ w.store
  rw [pass?] at h
  generalize Pass.run ⟨fetched, w.now, lead⟩ w.store = report at h hcases
  cases hcases with
  | unserved _ => exact .inl (Option.some.inj h).symm
  | unstored _ _ => exact .inl (Option.some.inj h).symm
  | @committed deviceTasks stored _ hfetched hall _ =>
    cases hdue : (Pass.carryOut w.now lead (Diff.reconcile deviceTasks stored).intents).2 with
    | none =>
      simp only [Pass.committed, hdue] at h
      exact .inr ⟨deviceTasks, stored, hfetched, hall, hdue, (Option.some.inj h).symm⟩
    | some e =>
      simp only [Pass.committed, hdue] at h
      cases h

/-- A pass leaves the store with what it keeps of the alarms that were made. -/
theorem founded_pass (hf : w.Founded lead) {fetched : Except SourceError (List DeviceTask)}
    (hin : (Move.pass fetched).InReach lead) (h : w.pass? lead fetched = some w') :
    w'.Founded lead := by
  rcases pass?_cases h with rfl | ⟨deviceTasks, stored, rfl, -, -, rfl⟩
  · exact hf
  · refine Founded.congr ⟨hf.keyed.written _, Table.ext_get? fun k => ?_, fun k a ha => ?_⟩
      (store_obeyAll _ _) (made_obeyAll _ _)
    · dsimp only
      rw [Store.get?_alarms_written, Table.get?_map, Store.get?_applyDiff, Store.keep_written,
        hf.alarms_eq, Table.get?_map]
      split
      · rfl
      · rw [Option.map_or]
    · dsimp only at ha
      rw [Store.get?_applyDiff] at ha
      split at ha
      · cases ha
      · rcases Option.or_eq_some_iff.mp ha with hnew | ⟨-, hold⟩
        · exact hin a (Diff.mem_alarmsOf_of_mem_toInsert
            (List.mem_reverse.mp (List.mem_of_find?_eq_some hnew)))
        · exact hf.inReach k a hold

/-- A pass accounts for what it inserts and leaves no timer of what it deletes. -/
theorem covers_pass (hlead : 0 ≤ lead.nanos) (hf : w.Founded lead) (hcov : w.Covers zone id)
    {fetched : Except SourceError (List DeviceTask)} (hin : (Move.pass fetched).InReach lead)
    (h : w.pass? lead fetched = some w') : w'.Covers zone id := by
  rcases pass?_cases h with rfl | ⟨deviceTasks, stored, rfl, hall, hdue, rfl⟩
  · exact hcov
  rw [Pass.carryOut_intents_eq_none_iff] at hdue
  have hn := Pass.nodup_map_id_carryOut hf.keyed hall deviceTasks w.now lead
  by_cases hins : id ∈ (Diff.reconcile deviceTasks stored).toInsert.map (·.id)
  · obtain ⟨a, ha, rfl⟩ := List.mem_map.mp hins
    have hreach : a.InReach lead := hin a (Diff.mem_alarmsOf_of_mem_toInsert ha)
    obtain ⟨due, hfire⟩ := hdue a ha
    have hmem := (Pass.schedule_mem_carryOut_iff Diff.pairwise_toInsert).mpr
      ⟨a, ha, fun b hb _ => hdue b hb, rfl, hfire⟩
    refine covers_of_schedule_mem hn hmem ?_ (firstFire_le_max hlead hreach.isLeap_eq hfire)
    dsimp only
    rw [Store.get?_applyDiff, if_neg (Diff.not_mem_map_toDelete ha),
      Diff.find?_reverse_toInsert_eq_some ha]
    rfl
  · by_cases hdel : id ∈ (Diff.reconcile deviceTasks stored).toDelete.map (·.id)
    · have hmem := Pass.cancel_mem_carryOut_iff.mpr ⟨hdue, hdel⟩
      refine covers_of_absent ?_ (timer_of_cancel_mem hn hmem _)
      rw [store_obeyAll, Store.get?_alarms_written, if_pos hdel]
    · have hnot : id ∉ (Pass.carryOut w.now lead
          (Diff.reconcile deviceTasks stored).intents).1.map TimerCommand.id := by
        intro hmem
        have hid := (Pass.map_id_carryOut_sublist w.now lead _).subset hmem
        rw [Pass.map_id_intents, List.mem_append] at hid
        exact hid.elim hins hdel
      have hnone := Diff.find?_reverse_toInsert_eq_none hins
      refine hcov.of_same (Same.trans ?_ (same_obeyAll hnot _))
      refine ⟨?_, ?_, rfl, fun hq => hq, rfl, fun _ he => he, rfl⟩
      · rw [Store.get?_alarms_written, if_neg hdel, hnone]
        rfl
      · rw [Store.get?_applyDiff, if_neg hdel, hnone]
        rfl

/-! ### Timers -/

/-- A timer that fires leaves its alarm to the queue. -/
theorem covers_wake (hcov : w.Covers zone id) (k : Int64) : (w.wake k).Covers zone id := by
  rw [wake, Timers.look]
  cases ht : w.timers.waiting.get? k with
  | none => exact hcov
  | some t =>
    dsimp only
    cases hnap : nap? w.timers.longestNap t.due w.now with
    | none =>
      by_cases hk : k = id
      · subst hk
        refine ⟨fun _ _ => .inr (.inl ?_), fun t ht => ?_⟩
        · simp
        · exact absurd ht (by simp [Timers.cancel])
      · refine hcov.of_same ⟨rfl, rfl, ?_, fun hq => ?_, rfl, fun _ he => he, rfl⟩
        · simp [Timers.cancel, hk]
        · simp [hq]
    | some d =>
      by_cases hk : k = id
      · subst hk
        refine ⟨fun _ _ => .inl ⟨{ t with wakes := w.elapsed + d.nanos }, ?_⟩, fun u hu => ?_⟩
        · simp only [Table.get?_insert, if_true]
        · simp only [Table.get?_insert, if_true] at hu
          obtain rfl := Option.some.inj hu
          exact hcov.timely t ht
      · refine hcov.of_same ⟨rfl, rfl, ?_, fun hq => ?_, rfl, fun _ he => he, rfl⟩
        · simp [hk]
        · simpa using hq

/-! ### Fired alarms -/

/-- Showing messages for one alarm leaves the others as they are. -/
theorem same_of_head {k : Int64} (hid : id ≠ k) {queue : List Int64} (hq : w.queue = k :: queue)
    (messages : List Message) :
    Same id w { w with queue, log := messages.map (.shown k) ++ w.log } := by
  refine ⟨rfl, rfl, rfl, fun hmem => ?_, ?_, fun e he => ?_, rfl⟩
  · rw [hq] at hmem
    exact (List.mem_cons.mp hmem).resolve_left hid
  · have hnone : (messages.map (Entry.shown k)).find? (·.arms id) = none := by
      rw [List.find?_eq_none]
      intro e he
      obtain ⟨m, -, rfl⟩ := List.mem_map.mp he
      exact Bool.false_ne_true
    rw [List.find?_append, hnone, Option.none_or]
  · induction messages with
    | nil => exact he
    | cons m messages ih =>
      rw [List.map_cons, List.cons_append, since_cons]
      exact List.mem_cons_of_mem _ ih

/-- A handling that runs to completion takes the first id off the queue and succeeds. -/
theorem dispatch?_cases (h : w.dispatch? zone = some w') :
    ∃ k queue report, w.queue = k :: queue ∧
      Firing.Handled zone (.of w.store w.now k) report ∧ (∃ n, report.result = .ok n) ∧
      w' = obeyAll { w with queue, log := report.messages.map (.shown k) ++ w.log }
        report.commands := by
  rw [dispatch?] at h
  cases hq : w.queue with
  | nil =>
    rw [hq] at h
    cases h
  | cons k queue =>
    rw [hq] at h
    dsimp only at h
    refine ⟨k, queue, _, rfl, Firing.handled_handle zone _, ?_⟩
    split at h
    · next n hn => exact ⟨⟨n, hn⟩, (Option.some.inj h).symm⟩
    · cases h

/-- The alarm that is handled is armed again, or its start-now message is shown, or it is gone. -/
theorem covers_dispatch (hf : w.Founded lead) (hcov : ∀ k, w.Covers zone k)
    (h : w.dispatch? zone = some w') : w'.Covers zone id := by
  obtain ⟨k, queue, report, hq, hcases, ⟨n, hresult⟩, rfl⟩ := dispatch?_cases h
  cases hcases with
  | unanswered _ => cases hresult
  | endless _ _ _ => cases hresult
  | gone hloaded =>
    by_cases hid : id = k
    · subst hid
      have halarm := (Store.load_eq_ok_iff.mp hloaded).2
      exact covers_of_absent halarm ((hcov id).timer_eq_none hf halarm)
    · exact (hcov id).of_same (same_of_head hid hq [])
  | @ready a notice hloaded hstart =>
    have halarm := (Store.load_eq_ok_iff.mp hloaded).2
    obtain rfl := hf.keyed.alarms k a halarm
    by_cases hid : id = a.id
    · subst hid
      obtain ⟨b, hmade, hkeep⟩ := hf.alarm_eq_some_iff.mp halarm
      have hle := (start_keep_le w.store (hf.inReach _ _ hmade).isLeap_eq).2
      rw [hkeep] at hle
      exact covers_of_schedule_mem (List.nodup_singleton _) (List.mem_singleton_self _) hmade
        (hle.trans (le_max_left _ _))
    · have hnot : id ∉ [TimerCommand.schedule a.id a.start].map TimerCommand.id := by
        rw [List.map_singleton, List.mem_singleton]
        exact hid
      exact (hcov id).of_same ((same_of_head hid hq [notice.message zone]).trans
        (same_obeyAll hnot _))
  | @started a finish hloaded hstart hfinish =>
    have halarm := (Store.load_eq_ok_iff.mp hloaded).2
    by_cases hid : id = k
    · subst hid
      refine ⟨fun b hb => ?_, (hcov id).timely⟩
      obtain rfl : a = b := Option.some.inj (halarm.symm.trans hb)
      refine .inr (.inr (.inl ⟨finish, hfinish, ?_⟩))
      exact List.mem_cons_self
    · exact (hcov id).of_same (same_of_head hid hq [_])

/-! ### Restarts -/

/-- A restart that runs to completion sets the timers of all stored alarms that have not ended. -/
theorem restart?_cases (h : w.restart? lead = some w') :
    ∃ stored, w.store.all = .ok stored ∧ (∀ a ∈ stored, ¬ a.Stalls w.now lead) ∧
      w' = obeyAll
        { w with timers := .idle w.timers.longestNap, queue := [], restarted := w.now }
        (rearmAll w.now lead stored).1 := by
  rw [restart?, rearm] at h
  cases hall : w.store.all with
  | error e =>
    rw [hall] at h
    cases h
  | ok stored =>
    rw [hall] at h
    dsimp only at h
    cases hn : (rearmAll w.now lead stored).2 with
    | error e =>
      rw [hn] at h
      cases h
    | ok n =>
      rw [hn] at h
      exact ⟨stored, rfl, exists_rearmAll_eq_ok_iff.mp ⟨n, hn⟩, (Option.some.inj h).symm⟩

/-- After a restart every stored alarm has its timer or has ended. -/
theorem covers_restart (hlead : 0 ≤ lead.nanos) (hf : w.Founded lead)
    (h : w.restart? lead = some w') : w'.Covers zone id := by
  obtain ⟨stored, hall, hstalls, rfl⟩ := restart?_cases h
  obtain ⟨-, rfl⟩ := Store.all_eq_ok_iff.mp hall
  have hkeyed := hf.keyed.alarms
  by_cases harmed : ∃ a ∈ w.store.alarms.values, a.id = id ∧ ∃ due, a.RearmsAt w.now lead due
  · obtain ⟨a, ha, rfl, due, hdue⟩ := harmed
    have hmem := (schedule_mem_rearmAll_iff hkeyed.pairwise_values).mpr
      ⟨a, ha, fun b hb _ => hstalls b hb, rfl, hdue⟩
    obtain ⟨b, hmade, hkeep⟩ := hf.alarm_eq_some_iff.mp (hkeyed.mem_values_iff.mp ha)
    obtain ⟨hleap, hle⟩ := start_keep_le w.store (hf.inReach _ _ hmade).isLeap_eq
    rw [hkeep] at hleap hle
    exact covers_of_schedule_mem (nodup_map_id_rearmAll hkeyed.pairwise_values) hmem hmade
      ((firstFire_le_max hlead hleap hdue.2.2).trans (max_le_max_right _ hle))
  · have hnot : id ∉ (rearmAll w.now lead w.store.alarms.values).1.map TimerCommand.id := by
      intro hmem
      obtain ⟨c, hc, rfl⟩ := List.mem_map.mp hmem
      obtain ⟨a, ha, due, rfl, hdue⟩ := exists_of_mem_rearmAll hc
      exact harmed ⟨a, ha, rfl, due, hdue⟩
    refine Covers.of_same ⟨fun a ha => ?_, fun t ht => ?_⟩ (same_obeyAll hnot _)
    · obtain rfl := hkeyed id a ha
      have hvalue := hkeyed.mem_values_iff.mpr ha
      rcases a.endedBy_or_rearmsAt_or_stalls w.now lead with hended | hdue | hstall
      · exact .inr (.inr (.inr hended))
      · exact absurd ⟨a, hvalue, rfl, hdue⟩ harmed
      · exact absurd hstall (hstalls a hvalue)
    · exact absurd ht (by simp [Timers.idle])

/-! ### Whole runs -/

/-- What the database refuses is no matter of the stored alarms. -/
theorem founded_trouble (hf : w.Founded lead) (outage? : Option Outage)
    (refusedWrites refusedDeletes : List Int64) :
    Founded lead
      { w with store := w.store.troubled outage? refusedWrites refusedDeletes } := by
  obtain ⟨store, made, timers, queue, log, now, elapsed, restarted⟩ := w
  cases store with
  | memory alarms => exact hf
  | database db => exact ⟨hf.keyed, hf.alarms_eq, hf.inReach⟩

/-- A restart changes no stored alarm. -/
theorem founded_restart (hf : w.Founded lead) (h : w.restart? lead = some w') :
    w'.Founded lead := by
  obtain ⟨stored, -, -, rfl⟩ := restart?_cases h
  exact hf.congr (store_obeyAll _ _) (made_obeyAll _ _)

/-- Handling a fired alarm changes no stored alarm. -/
theorem founded_dispatch (hf : w.Founded lead) (h : w.dispatch? zone = some w') :
    w'.Founded lead := by
  obtain ⟨k, queue, report, -, -, -, rfl⟩ := dispatch?_cases h
  exact hf.congr (store_obeyAll _ _) (made_obeyAll _ _)

/-- **One move keeps up the foundation and what is promised of every id.** -/
theorem founded_covers_step (hlead : 0 ≤ lead.nanos) (hf : w.Founded lead)
    (hcov : ∀ k, w.Covers zone k) {m : Move} (hin : m.InReach lead)
    (h : w.step? lead zone m = some w') : w'.Founded lead ∧ ∀ k, w'.Covers zone k := by
  cases m with
  | pass fetched =>
    exact ⟨founded_pass hf hin h, fun k => covers_pass hlead hf (hcov k) hin h⟩
  | wake id =>
    obtain rfl := Option.some.inj h
    exact ⟨hf.congr rfl rfl, fun k => covers_wake (hcov k) id⟩
  | dispatch => exact ⟨founded_dispatch hf h, fun k => covers_dispatch hf hcov h⟩
  | clock now elapsed =>
    obtain rfl := Option.some.inj h
    exact ⟨hf.congr rfl rfl, fun k => ⟨(hcov k).stored, (hcov k).timely⟩⟩
  | trouble outage? refusedWrites refusedDeletes =>
    obtain rfl := Option.some.inj h
    refine ⟨founded_trouble hf outage? refusedWrites refusedDeletes, fun k => ?_⟩
    refine (hcov k).of_same ⟨?_, rfl, rfl, fun hq => hq, rfl, fun _ he => he, rfl⟩
    cases hs : w.store <;> rfl
  | restart => exact ⟨founded_restart hf h, fun k => covers_restart hlead hf h⟩

/-- What is promised holds of every watch that a run leads to. -/
theorem Reachable.founded_covers (hlead : 0 ≤ lead.nanos) (h : Reachable lead zone w) :
    w.Founded lead ∧ ∀ k, w.Covers zone k := by
  induction h with
  | start hf hs => exact ⟨founded_restart hf hs, fun k => covers_restart hlead hf hs⟩
  | step _ hin hs ih => exact founded_covers_step hlead ih.1 ih.2 hin hs

/-- **No stored alarm is lost.** In every watch that a run leads to, a stored alarm has its timer
set, or waits in the queue, or its start-now message was shown after its timer was last set, or its
run had ended at the last restart. A timer that is set is that of a stored alarm, and due no later
than the start with which the alarm was made or the moment at which it was set. -/
theorem Reachable.covered (hlead : 0 ≤ lead.nanos) (h : Reachable lead zone w) :
    (∀ id a, w.store.alarms.get? id = some a →
      (∃ t, w.timers.waiting.get? id = some t) ∨ id ∈ w.queue ∨ w.Started zone id a ∨
        a.EndedBy w.restarted) ∧
      ∀ id t, w.timers.waiting.get? id = some t →
        ∃ a moment, w.made.get? id = some a ∧
          w.store.alarms.get? id = some (w.store.keep a) ∧
          w.log.find? (·.arms id) = some (.armed id t.due moment) ∧ t.due ≤ max a.start moment := by
  obtain ⟨hf, hcov⟩ := h.founded_covers hlead
  refine ⟨fun id a ha => (hcov id).stored a ha, fun id t ht => ?_⟩
  obtain ⟨a, moment, hmade, hlog, hdue⟩ := (hcov id).timely t ht
  exact ⟨a, moment, hmade, hf.alarm_eq_some_iff.mpr ⟨a, hmade, rfl⟩, hlog, hdue⟩

/-! ### Moves run to completion -/

/-- What the store keeps of an alarm within reach has an end, and the lead fits ahead of it. -/
theorem hasEnd_leadFits_keep {ms : Int} (hms : lead.nanos = ms * 1000000) (s : Store) {a : Alarm}
    (h : a.InReach lead) : (s.keep a).HasEnd ∧ (s.keep a).LeadFits lead := by
  cases s with
  | memory alarms => exact ⟨h.hasEnd, h.leadFits⟩
  | database db =>
    exact ⟨h.hasEnd.stored h.isLeap_eq h.duration_nonneg, h.leadFits.stored h.isLeap_eq hms⟩

/-- A pass over runs within reach runs to completion. -/
theorem exists_pass?_eq_some (hlead : 0 ≤ lead.nanos)
    {fetched : Except SourceError (List DeviceTask)} (hin : (Move.pass fetched).InReach lead) :
    ∃ w', w.pass? lead fetched = some w' := by
  have hcases := Pass.outcome_run ⟨fetched, w.now, lead⟩ w.store
  rw [pass?]
  generalize Pass.run ⟨fetched, w.now, lead⟩ w.store = report at hcases
  cases hcases with
  | unserved _ => exact ⟨_, rfl⟩
  | unstored _ _ => exact ⟨_, rfl⟩
  | @committed deviceTasks stored _ hfetched _ _ =>
    obtain rfl : fetched = .ok deviceTasks := hfetched
    have hdue : (Pass.carryOut w.now lead (Diff.reconcile deviceTasks stored).intents).2 = none :=
      Pass.carryOut_intents_eq_none_iff.mpr fun a ha =>
        (a.leadFits_iff hlead w.now).mp (hin a (Diff.mem_alarmsOf_of_mem_toInsert ha)).leadFits
    simp only [Pass.committed, hdue]
    exact ⟨_, rfl⟩

/-- The handling of the first alarm of the queue runs to completion, if the store answers. -/
theorem exists_dispatch?_eq_some {ms : Int} (hms : lead.nanos = ms * 1000000)
    (hf : w.Founded lead) (hopen : w.store.IsOpen) (hqueue : w.queue ≠ []) :
    ∃ w', w.dispatch? zone = some w' := by
  obtain ⟨k, queue, hq⟩ := List.exists_cons_of_ne_nil hqueue
  rw [dispatch?, hq]
  dsimp only
  have hcases := Firing.handled_handle zone (.of w.store w.now k)
  generalize Firing.handle zone (.of w.store w.now k) = report at hcases
  cases hcases with
  | gone _ => exact ⟨_, rfl⟩
  | ready _ _ => exact ⟨_, rfl⟩
  | started _ _ _ => exact ⟨_, rfl⟩
  | unanswered hloaded =>
    have hload : w.store.load k = .ok (w.store.alarms.get? k) :=
      Store.load_eq_ok_iff.mpr ⟨hopen, rfl⟩
    cases hload.symm.trans hloaded
  | @endless a e hloaded _ hend =>
    obtain ⟨b, hmade, rfl⟩ := hf.alarm_eq_some_iff.mp (Store.load_eq_ok_iff.mp hloaded).2
    obtain ⟨⟨finish, hfinish⟩, -⟩ := hasEnd_leadFits_keep hms w.store (hf.inReach _ _ hmade)
    cases hend.symm.trans hfinish

/-- A restart runs to completion, if the store answers. -/
theorem exists_restart?_eq_some (hlead : 0 ≤ lead.nanos) {ms : Int}
    (hms : lead.nanos = ms * 1000000) (hf : w.Founded lead) (hopen : w.store.IsOpen) :
    ∃ w', w.restart? lead = some w' := by
  have hall := Store.all_eq_ok_iff.mpr ⟨hopen, rfl⟩
  obtain ⟨n, hn⟩ : ∃ n, (rearmAll w.now lead w.store.alarms.values).2 = .ok n := by
    refine exists_rearmAll_eq_ok_iff.mpr fun a ha => ?_
    obtain ⟨b, hmade, rfl⟩ := hf.alarm_eq_some_iff.mp (hf.keyed.alarms.mem_values_iff.mp ha)
    obtain ⟨hend, hfits⟩ := hasEnd_leadFits_keep hms w.store (hf.inReach _ _ hmade)
    rintro (hno | ⟨-, hno⟩)
    · exact hno hend
    · exact hno (((w.store.keep b).leadFits_iff hlead w.now).mp hfits)
  rw [restart?, rearm, hall]
  dsimp only
  rw [hn]
  exact ⟨_, rfl⟩

/-- **Within reach every move runs to completion**, provided that the lead is a number of whole
milliseconds, that the store answers and that there is something to handle. -/
theorem exists_step?_eq_some (hlead : 0 ≤ lead.nanos) {ms : Int} (hms : lead.nanos = ms * 1000000)
    (hf : w.Founded lead) (hopen : w.store.IsOpen) {m : Move} (hin : m.InReach lead)
    (hqueue : m = .dispatch → w.queue ≠ []) : ∃ w', w.step? lead zone m = some w' := by
  cases m with
  | wake id => exact ⟨_, rfl⟩
  | clock now elapsed => exact ⟨_, rfl⟩
  | trouble outage? refusedWrites refusedDeletes => exact ⟨_, rfl⟩
  | pass fetched => exact exists_pass?_eq_some hlead hin
  | dispatch => exact exists_dispatch?_eq_some hms hf hopen (hqueue rfl)
  | restart => exact exists_restart?_eq_some hlead hms hf hopen

/-! ### A run -/

/-- The washer before its first start: one alarm is stored, and nothing else has happened. -/
def laundry : Watch where
  store := .database Pass.laundryDatabase
  made := Table.empty.insert 7 ⟨7, "Washer", .epoch, 300000⟩
  timers := .idle Timers.defaultNap
  queue := []
  log := []
  now := .epoch
  elapsed := 0
  restarted := .epoch

/-- The stored alarm of the washer is within reach, ten minutes ahead. -/
theorem founded_laundry : laundry.Founded ⟨600000000000⟩ := by
  have hrows : Table.Keyed Row.id Pass.laundryDatabase.rows :=
    Table.Keyed.empty.insert (⟨7, "Washer", 0, 300000⟩ : Row)
  refine ⟨hrows, rfl, fun id a ha => ?_⟩
  rw [laundry, Table.get?_insert] at ha
  split at ha
  · obtain rfl := Option.some.inj ha
    exact ⟨rfl, by decide, by decide, _, rfl⟩
  · cases ha

/-- The washer is started, a pass puts an alarm for noon in place of the stored one, and at noon it
fires and is handled: its start-now message was shown, which accounts for it. -/
theorem covered_laundry :
    0 ≤ (⟨600000000000⟩ : Span).nanos ∧ ∃ w, Reachable ⟨600000000000⟩ .universal w ∧
      w.store.alarms.get? 105 = some ⟨105, "Washer", Pass.noon, 300000⟩ ∧
      w.timers.waiting.get? 105 = none ∧
      ((∃ t, w.timers.waiting.get? 105 = some t) ∨ 105 ∈ w.queue ∨
        w.Started .universal 105 ⟨105, "Washer", Pass.noon, 300000⟩ ∨
          (⟨105, "Washer", Pass.noon, 300000⟩ : Alarm).EndedBy w.restarted) := by
  have hlead : 0 ≤ (⟨600000000000⟩ : Span).nanos := by decide
  have hin : (Move.pass (.ok Pass.laundryHistories)).InReach ⟨600000000000⟩ := by
    intro a ha
    obtain rfl := List.mem_singleton.mp ha
    exact ⟨rfl, by decide, by decide, _, rfl⟩
  have hstart : Reachable ⟨600000000000⟩ .universal _ := .start founded_laundry rfl
  have hpass := hstart.step hin rfl
  have hnoon := hpass.step (m := .clock Pass.noon 0) trivial rfl
  have hfired := hnoon.step (m := .wake 105) trivial rfl
  have hshown := hfired.step (m := .dispatch) trivial rfl
  refine ⟨hlead, _, hshown, ?_, ?_, (hshown.covered hlead).1 105 _ ?_⟩
  · rfl
  · rfl
  · rfl

end Household.Watch
