import Household.Proofs.Overlap.Deeds

/-!
# Overlapping Passes over One Listing

While the server lists the same, all passes work on the same diff. One that reads the store before
the first commit decides on it, and carrying it out once more changes nothing; one that reads the
store later finds nothing to change. So whatever the order of their steps, the passes leave the
store as one of them alone would, and the timers that they set are those of the alarms that were
added.

## Main results

* `Pass.Stepped.agrees`: no step leads away from the one diff.
* `Overlap.asOne_run`: passes over one listing have the effect of one.
-/

namespace Household

namespace Pass

variable {fetched : Except SourceError (List DeviceTask)} {store s s' : Store} {d : Diff}

/-! ### The one diff -/

/-- The diff that a pass commits when it is alone, if server and store let it get that far. -/
def diff? (fetched : Except SourceError (List DeviceTask)) (store : Store) : Option Diff :=
  (committed? fetched store).map (Diff.reconcile · store.alarms.values)

/-- The store that a pass leaves when it is alone. -/
def final (fetched : Except SourceError (List DeviceTask)) (store : Store) : Store :=
  (diff? fetched store).elim store (store.written ·)

/-- The diff of a pass is that of the listing and the stored alarms, if the store takes it. -/
theorem diff?_eq_some_iff :
    diff? fetched store = some d ↔
      ∃ deviceTasks stored store', fetched = .ok deviceTasks ∧ store.all = .ok stored ∧
        d = Diff.reconcile deviceTasks stored ∧ store.apply d = .ok store' := by
  simp only [diff?, Option.map_eq_some_iff, committed?_eq_some_iff]
  constructor
  · rintro ⟨deviceTasks, ⟨hfetched, stored, store', hall, happly⟩, rfl⟩
    obtain ⟨-, rfl⟩ := Store.all_eq_ok_iff.mp hall
    exact ⟨deviceTasks, _, store', hfetched, hall, rfl, happly⟩
  · rintro ⟨deviceTasks, stored, store', hfetched, hall, rfl, happly⟩
    obtain ⟨-, rfl⟩ := Store.all_eq_ok_iff.mp hall
    exact ⟨deviceTasks, ⟨hfetched, _, store', hall, happly⟩, rfl⟩

/-- What a pass leaves is the store with its diff. -/
theorem final_of_diff? (h : diff? fetched store = some d) :
    final fetched store = store.written d := by
  rw [final, h]
  rfl

/-- A pass without a diff leaves the store as it was. -/
theorem final_of_forall_ne (h : ∀ d, diff? fetched store ≠ some d) :
    final fetched store = store := by
  rw [final, Option.eq_none_iff_forall_ne_some.mpr h]
  rfl

/-- There is no other diff than that of the listing and the stored alarms, and the store takes
it. -/
theorem eq_reconcile_of_diff? (h : diff? fetched store = some d) {deviceTasks : List DeviceTask}
    (hfetched : fetched = .ok deviceTasks) {stored : List Alarm} (hall : store.all = .ok stored) :
    d = Diff.reconcile deviceTasks stored ∧ ∃ store', store.apply d = .ok store' := by
  obtain ⟨_, _, store', hserved, hread, rfl, happly⟩ := diff?_eq_some_iff.mp h
  obtain rfl := Except.ok.inj (hfetched.symm.trans hserved)
  obtain rfl := Except.ok.inj (hall.symm.trans hread)
  exact ⟨rfl, store', happly⟩

/-- A pass that is alone leaves this store. -/
theorem store_run_eq_final (view : View) (store : Store) :
    (run view store).store = final view.fetched store := by
  rw [store_run, final, diff?]
  cases committed? view.fetched store <;> rfl

/-- The diff inserts what is not stored and deletes what is. -/
theorem contains_of_stored? (hk : store.Keyed) (h : diff? fetched store = some d) {k : Int64}
    {b : Bool} (hb : d.stored? k = some b) : store.alarms.contains k = !b := by
  obtain ⟨deviceTasks, stored, -, -, hall, rfl, -⟩ := diff?_eq_some_iff.mp h
  obtain ⟨-, rfl⟩ := Store.all_eq_ok_iff.mp hall
  have hstored : k ∈ store.alarms.values.map (·.id) ↔ store.alarms.contains k = true := by
    rw [hk.alarms.mem_map_values_iff, Table.contains_iff]
  rw [Diff.stored?] at hb
  split at hb
  · next hdel =>
    obtain rfl := Option.some.inj hb
    exact hstored.mp (Diff.mem_map_toDelete_iff.mp hdel).1
  · split at hb
    · next hins =>
      obtain rfl := Option.some.inj hb
      exact Bool.eq_false_iff.mpr fun h => (Diff.mem_map_toInsert_iff.mp hins).2 (hstored.mpr h)
    · cases hb

/-! ### Passes that agree on the diff -/

/-- The diff has been committed. -/
def IsCommitted (fetched : Except SourceError (List DeviceTask)) (store s : Store) : Prop :=
  ∃ d, diff? fetched store = some d ∧ s = store.written d

/-- A committed diff leaves the store as a pass does. -/
theorem IsCommitted.eq_final (h : IsCommitted fetched store s) : s = final fetched store := by
  obtain ⟨d, hd, rfl⟩ := h
  exact (final_of_diff? hd).symm

/-- A store without a diff is as a pass leaves it, and so is one with the diff committed. -/
theorem eq_final_of_forall_ne (hs : s = store ∨ IsCommitted fetched store s)
    (hnone : s = store → ∀ d, diff? fetched store ≠ some d) : s = final fetched store := by
  rcases hs with rfl | hs
  · exact (final_of_forall_ne (hnone rfl)).symm
  · exact hs.eq_final

/-- After the diff there is nothing to change. -/
theorem IsCommitted.isEmpty_reconcile (h : IsCommitted fetched store s) (hk : store.Keyed)
    {deviceTasks : List DeviceTask} (hfetched : fetched = .ok deviceTasks) {stored : List Alarm}
    (hall : s.all = .ok stored) : (Diff.reconcile deviceTasks stored).isEmpty = true := by
  obtain ⟨d, hd, rfl⟩ := h
  obtain ⟨deviceTasks', before, -, hfetched', hbefore, rfl, -⟩ := diff?_eq_some_iff.mp hd
  obtain rfl := Except.ok.inj (hfetched.symm.trans hfetched')
  obtain ⟨-, rfl⟩ := Store.all_eq_ok_iff.mp hall
  exact Diff.isEmpty_reconcile_iff.mpr fun k =>
    Store.mem_map_values_written_reconcile_iff hk hbefore

/-- The diff is the same when another pass has committed it already, and committing it once more
changes nothing. -/
theorem isCommitted_of_apply (hs : s = store ∨ IsCommitted fetched store s)
    {deviceTasks : List DeviceTask} (hfetched : fetched = .ok deviceTasks) {stored : List Alarm}
    (hall : store.all = .ok stored)
    (happly : s.apply (Diff.reconcile deviceTasks stored) = .ok s') :
    diff? fetched store = some (Diff.reconcile deviceTasks stored) ∧
      IsCommitted fetched store s' := by
  obtain rfl := Store.eq_written_of_apply happly
  rcases hs with rfl | ⟨d, hd, rfl⟩
  · have hdiff := diff?_eq_some_iff.mpr ⟨deviceTasks, stored, _, hfetched, hall, rfl, happly⟩
    exact ⟨hdiff, _, hdiff, rfl⟩
  · obtain ⟨rfl, -⟩ := eq_reconcile_of_diff? hd hfetched hall
    exact ⟨hd, _, hd, store.written_written _⟩

/-- A pass that began with this store has not got to anything but the one diff. -/
def Stage.Agrees (fetched : Except SourceError (List DeviceTask)) (store s : Store) : Stage → Prop
  | .fetching => True
  | .reading deviceTasks => fetched = .ok deviceTasks
  | .committing diff =>
    ∃ deviceTasks stored, fetched = .ok deviceTasks ∧ store.all = .ok stored ∧
      diff = Diff.reconcile deviceTasks stored
  | .arming _ _ _ => IsCommitted fetched store s
  | .ended (.ok _) => IsCommitted fetched store s
  | .ended (.error _) => s = final fetched store

/-- Passes agree on the diff whether another one commits it or not. -/
theorem Stage.Agrees.other {stage : Stage} (h : stage.Agrees fetched store s)
    (hs : s' = s ∨ IsCommitted fetched store s') : stage.Agrees fetched store s' := by
  rcases hs with rfl | hs
  · exact h
  · cases stage with
    | fetching => exact h
    | reading deviceTasks => exact h
    | committing diff => exact h
    | arming diff now left => exact hs
    | ended result =>
      cases result with
      | ok diff => exact hs
      | error e => exact hs.eq_final

/-- **No step leads away from the one diff.** -/
theorem Stepped.agrees {view : View} {stage stage' : Stage} {cs : List TimerCommand}
    (h : Stepped view s stage stage' s' cs) (hk : store.Keyed)
    (hs : s = store ∨ IsCommitted view.fetched store s)
    (hagrees : stage.Agrees view.fetched store s) (elapsed : Int) :
    (s' = s ∨ IsCommitted view.fetched store s') ∧ stage'.Agrees view.fetched store s' ∧
      ∀ d now, Deed.commit d now ∈ Deed.ofStep elapsed stage stage' cs →
        diff? view.fetched store = some d := by
  have hnone : ∀ {cs : List TimerCommand} (d : Diff) (now : Instant),
      Deed.commit d now ∈ cs.map (Deed.command · elapsed) →
        diff? view.fetched store = some d := by
    intro cs d now hmem
    obtain ⟨c, -, hc⟩ := List.mem_map.mp hmem
    cases hc
  cases h with
  | unserved hfetched =>
    refine ⟨.inl rfl, eq_final_of_forall_ne hs fun _ d hd => ?_, hnone⟩
    obtain ⟨deviceTasks, -, -, hserved, -⟩ := diff?_eq_some_iff.mp hd
    cases hfetched.symm.trans hserved
  | served hfetched => exact ⟨.inl rfl, hfetched, hnone⟩
  | unread hall =>
    refine ⟨.inl rfl, eq_final_of_forall_ne hs fun heq d hd => ?_, hnone⟩
    obtain ⟨-, stored, -, -, hread, -⟩ := diff?_eq_some_iff.mp hd
    cases (heq ▸ hall).symm.trans hread
  | @settled deviceTasks stored hall hempty =>
    refine ⟨.inl rfl, ?_, hnone⟩
    rcases hs with rfl | hs
    · have happly := s.apply_of_isEmpty hempty
      exact ⟨_, diff?_eq_some_iff.mpr ⟨deviceTasks, stored, s, hagrees, hall, rfl, happly⟩,
        Store.eq_written_of_apply happly⟩
    · exact hs
  | @decided deviceTasks stored hall hempty =>
    refine ⟨.inl rfl, ?_, hnone⟩
    rcases hs with rfl | hs
    · exact ⟨deviceTasks, stored, hagrees, hall, rfl⟩
    · exact absurd (hs.isEmpty_reconcile hk hagrees hall) hempty
  | @refused diff e happly =>
    refine ⟨.inl rfl, eq_final_of_forall_ne hs fun heq d hd => ?_, hnone⟩
    obtain ⟨deviceTasks, stored, hserved, hall, rfl⟩ := hagrees
    obtain ⟨rfl, store', htaken⟩ := eq_reconcile_of_diff? hd hserved hall
    cases (heq ▸ happly).symm.trans htaken
  | @committed diff _ happly =>
    obtain ⟨deviceTasks, stored, hserved, hall, rfl⟩ := hagrees
    obtain ⟨hdiff, hcommitted⟩ := isCommitted_of_apply hs hserved hall happly
    refine ⟨.inr hcommitted, hcommitted, fun d now hmem => ?_⟩
    obtain ⟨rfl, -⟩ := Deed.commit.inj (List.mem_singleton.mp hmem)
    exact hdiff
  | told _ => exact ⟨.inl rfl, hagrees, hnone⟩
  | stuck _ => exact ⟨.inl rfl, hagrees.eq_final, hnone⟩
  | done => exact ⟨.inl rfl, hagrees, hnone⟩
  | ended => exact ⟨.inl rfl, hagrees, hnone⟩

end Pass

/-! ### Runs over one listing -/

namespace Overlap

variable {ι : Type} {fetched : Except SourceError (List DeviceTask)} {lead : Span} {store : Store}
  {timers : Timers} {o : Overlap ι} {k : Int64}

/-- All passes agree on the diff, and the store is as it was or the diff has been committed. -/
structure Agrees (fetched : Except SourceError (List DeviceTask)) (store : Store) (o : Overlap ι) :
    Prop where
  before_or_after : o.store = store ∨ Pass.IsCommitted fetched store o.store
  stage : ∀ i, (o.stage i).Agrees fetched store o.store
  commit : ∀ i diff now, (i, Deed.commit diff now) ∈ o.deeds → Pass.diff? fetched store = some diff

/-- Passes over one listing agree on its diff. -/
theorem agrees_run [DecidableEq ι] (hk : store.Keyed) {moves : List (Move ι)}
    (hmoves : ∀ m ∈ moves, ∃ i now elapsed, m = .turn i fetched now elapsed) :
    Agrees fetched store ((begin ι store timers).run lead moves) := by
  have hbegin : Agrees fetched store (begin ι store timers) :=
    ⟨.inl rfl, fun _ => trivial, fun _ _ _ hmem => absurd hmem List.not_mem_nil⟩
  refine run_induction (fun o m hm h => ?_) hbegin hmoves
  obtain ⟨i, now, elapsed, rfl⟩ := hm
  have hstep := Pass.stepped_step ⟨fetched, now, lead⟩ o.store (o.stage i)
  obtain ⟨hstore, hstage, hcommit⟩ := hstep.agrees hk h.before_or_after (h.stage i) elapsed
  refine ⟨?_, forall_stage_turn hstage (fun j _ => (h.stage j).other hstore) elapsed,
    fun j diff now' hmem => ?_⟩
  · rcases hstore with heq | hcommitted
    · rw [move, store_turn, heq]
      exact h.before_or_after
    · exact .inr hcommitted
  · rcases List.mem_append.mp hmem with hnew | hold
    · obtain ⟨deed, hdeed, heq⟩ := List.mem_map.mp hnew
      obtain ⟨-, rfl⟩ := Prod.mk.inj heq
      exact hcommit diff now' hdeed
    · exact h.commit j diff now' hold

/-- When a pass has come to an end, the store is what a pass leaves that is alone. -/
theorem Agrees.store_eq_final (h : Agrees fetched store o) {i : ι} (hdone : (o.stage i).IsDone) :
    o.store = Pass.final fetched store := by
  have hstage := h.stage i
  cases hs : o.stage i with
  | ended result =>
    rw [hs] at hstage
    cases result with
    | ok diff => exact hstage.eq_final
    | error e => exact hstage
  | fetching => exact (hs ▸ hdone : Pass.Stage.IsDone .fetching).elim
  | reading deviceTasks => exact (hs ▸ hdone : Pass.Stage.IsDone (.reading deviceTasks)).elim
  | committing diff => exact (hs ▸ hdone : Pass.Stage.IsDone (.committing diff)).elim
  | arming diff now left => exact (hs ▸ hdone : Pass.Stage.IsDone (.arming diff now left)).elim

/-- What the passes have decided is what the diff says. -/
theorem Agrees.stored?_eq (h : Agrees fetched store o) {d : Diff}
    (hd : Pass.diff? fetched store = some d) {b : Bool} (hb : o.stored? k = some b) :
    d.stored? k = some b := by
  obtain ⟨i, diff, now, hmem, hdecides⟩ := decided_of_stored? hb
  obtain rfl := Option.some.inj (hd.symm.trans (h.commit i diff now hmem))
  exact hdecides

/-- When all passes have come to an end, what the scheduler was told of an alarm carries out the
diff, and the diff has changed whether the alarm is stored. -/
theorem Agrees.exists_intent (h : Agrees fetched store o) (hsound : Sound lead store timers o)
    (hk : store.Keyed) (hdone : ∀ i, (o.stage i).IsDone) {t : Option Timer}
    (ht : o.timer? k = some t) :
    ∃ d, Pass.diff? fetched store = some d ∧ ∃ i now, (i, Deed.commit d now) ∈ o.deeds ∧
      ∃ intent ∈ d.intents, intent.id = k ∧
        (∃ c elapsed, intent.command now lead = .ok c ∧ t = c.timer? elapsed) ∧
        store.alarms.contains k = !intent.arms ∧ o.store.alarms.contains k = intent.arms := by
  obtain ⟨i, d, now, hmem, hn, intent, hintent, hid, hcommand⟩ := hsound.exists_intent hdone ht
  have hd := h.commit i d now hmem
  have hdecides := (Diff.stored?_eq_some_iff hn).mpr ⟨intent, hintent, hid, rfl⟩
  refine ⟨d, hd, i, now, hmem, intent, hintent, hid, hcommand,
    Pass.contains_of_stored? hk hd hdecides, ?_⟩
  obtain ⟨b, hb⟩ := Decided.exists_stored? ⟨i, d, now, hmem, hdecides⟩
  obtain rfl := Option.some.inj ((h.stored?_eq hd hb).symm.trans hdecides)
  rw [hsound.stored k, hb]
  rfl

/-- When all passes have come to an end, the scheduler was told of every alarm that is stored now
and was not, and of every alarm that was stored and is not now. -/
theorem Sound.exists_timer?_of_contains_ne (h : Sound lead store timers o)
    (hdone : ∀ i, (o.stage i).IsDone)
    (hne : o.store.alarms.contains k ≠ store.alarms.contains k) : ∃ t, o.timer? k = some t := by
  cases hs : o.stored? k with
  | none => exact absurd ((h.stored k).trans (by rw [hs]; rfl)) hne
  | some b => exact h.exists_timer? hdone (decided_of_stored? hs)

/-- The passes have had the effect of one. -/
structure AsOne (lead : Span) (fetched : Except SourceError (List DeviceTask)) (store : Store)
    (timers : Timers) (o : Overlap ι) : Prop where
  /-- The store is what a pass leaves that is alone, whenever it runs. -/
  store_eq : ∀ now, o.store = (Pass.run ⟨fetched, now, lead⟩ store).store
  /-- If one of the passes got through, the stored ids are the listed ones, each once. -/
  ids : ∀ i diff, o.stage i = .ended (.ok diff) → ∃ deviceTasks l, fetched = .ok deviceTasks ∧
    o.store.all = .ok l ∧ (l.map (·.id)).Pairwise (· < ·) ∧
      ∀ k, k ∈ l.map (·.id) ↔ k ∈ (Diff.alarmsOf deviceTasks).map (·.id)
  /-- What was added is kept of a listed alarm, and its timer is set for when that alarm first fires
  by the clock that one of the passes read when it committed. -/
  added : ∀ k a, store.alarms.get? k = none → o.store.alarms.get? k = some a →
    ∃ deviceTasks b, fetched = .ok deviceTasks ∧ b ∈ Diff.alarmsOf deviceTasks ∧
      a = store.keep b ∧ ∃ i diff now ahead elapsed, (i, Deed.commit diff now) ∈ o.deeds ∧
        b.start.sub lead = .ok ahead ∧ o.timers.waiting.get? k = some ⟨max now ahead, elapsed⟩
  /-- What was removed has no timer. -/
  removed : ∀ k a, store.alarms.get? k = some a → o.store.alarms.get? k = none →
    o.timers.waiting.get? k = none
  /-- All other timers are as they were. -/
  others : ∀ k, o.store.alarms.contains k = store.alarms.contains k →
    o.timers.waiting.get? k = timers.waiting.get? k

/-- Once a pass has got through, the stored ids are the listed ones. -/
theorem Agrees.ids (h : Agrees fetched store o) (hk : store.Keyed) {i : ι} {diff : Diff}
    (hi : o.stage i = .ended (.ok diff)) :
    ∃ deviceTasks l, fetched = .ok deviceTasks ∧ o.store.all = .ok l ∧
      (l.map (·.id)).Pairwise (· < ·) ∧
        ∀ k, k ∈ l.map (·.id) ↔ k ∈ (Diff.alarmsOf deviceTasks).map (·.id) := by
  have hstage := h.stage i
  rw [hi] at hstage
  obtain ⟨d, hd, hstore⟩ := hstage
  obtain ⟨deviceTasks, stored, -, hfetched, hall, rfl, -⟩ := Pass.diff?_eq_some_iff.mp hd
  have hopen : o.store.IsOpen := by
    rw [hstore, Store.isOpen_written]
    exact (Store.all_eq_ok_iff.mp hall).1
  refine ⟨deviceTasks, o.store.alarms.values, hfetched, Store.all_eq_ok_iff.mpr ⟨hopen, rfl⟩, ?_⟩
  rw [hstore]
  exact ⟨(hk.written _).alarms.pairwise_values,
    fun k => Store.mem_map_values_written_reconcile_iff hk hall⟩

/-- What was added is kept of a listed alarm whose timer was set. -/
theorem Agrees.added (h : Agrees fetched store o) (hsound : Sound lead store timers o)
    (hk : store.Keyed) (hdone : ∀ i, (o.stage i).IsDone) {a : Alarm}
    (hbefore : store.alarms.get? k = none) (hafter : o.store.alarms.get? k = some a) :
    ∃ deviceTasks b, fetched = .ok deviceTasks ∧ b ∈ Diff.alarmsOf deviceTasks ∧
      a = store.keep b ∧ ∃ i diff now ahead elapsed, (i, Deed.commit diff now) ∈ o.deeds ∧
        b.start.sub lead = .ok ahead ∧ o.timers.waiting.get? k = some ⟨max now ahead, elapsed⟩ := by
  have hstored : store.alarms.contains k = false := congrArg Option.isSome hbefore
  have hleft : o.store.alarms.contains k = true := congrArg Option.isSome hafter
  obtain ⟨t, ht⟩ := hsound.exists_timer?_of_contains_ne hdone (k := k) (by simp [hstored, hleft])
  obtain ⟨d, hd, i, now, hmem, intent, hintent, rfl, ⟨c, elapsed, hc, rfl⟩, harms, -⟩ :=
    h.exists_intent hsound hk hdone ht
  obtain ⟨deviceTasks, stored, -, hfetched, hall, rfl, -⟩ := Pass.diff?_eq_some_iff.mp hd
  cases intent with
  | disarm b => exact absurd (hstored.symm.trans harms) (by simp [Intent.arms])
  | arm b =>
    have hb : b ∈ (Diff.reconcile deviceTasks stored).toInsert := by
      simpa [Diff.intents] using hintent
    obtain ⟨due, hdue, rfl⟩ := Intent.command_arm_eq_ok_iff.mp hc
    obtain ⟨ahead, hahead, rfl⟩ := firstFire_eq_ok_iff_max.mp hdue
    refine ⟨deviceTasks, b, hfetched, Diff.mem_alarmsOf_of_mem_toInsert hb, ?_, i, _, now, ahead,
      elapsed, hmem, hahead, ?_⟩
    · have hkept : o.store.alarms.get? b.id = some (store.keep b) := by
        rw [h.store_eq_final (hdone i), Pass.final_of_diff? hd, Store.get?_alarms_written,
          if_neg (Diff.not_mem_map_toDelete hb), Diff.find?_reverse_toInsert_eq_some hb]
        rfl
      exact Option.some.inj (hafter.symm.trans hkept)
    · rw [hsound.timer, ht]
      rfl

/-- What was removed has no timer. -/
theorem Agrees.removed (h : Agrees fetched store o) (hsound : Sound lead store timers o)
    (hk : store.Keyed) (hdone : ∀ i, (o.stage i).IsDone) {a : Alarm}
    (hbefore : store.alarms.get? k = some a) (hafter : o.store.alarms.get? k = none) :
    o.timers.waiting.get? k = none := by
  have hstored : store.alarms.contains k = true := congrArg Option.isSome hbefore
  have hleft : o.store.alarms.contains k = false := congrArg Option.isSome hafter
  obtain ⟨t, ht⟩ := hsound.exists_timer?_of_contains_ne hdone (k := k) (by simp [hstored, hleft])
  obtain ⟨d, hd, i, now, hmem, intent, hintent, -, ⟨c, elapsed, hc, rfl⟩, harms, -⟩ :=
    h.exists_intent hsound hk hdone ht
  cases intent with
  | arm b => exact absurd (hstored.symm.trans harms) (by simp [Intent.arms])
  | disarm b =>
    obtain rfl := Except.ok.inj hc
    rw [hsound.timer, ht]
    rfl

/-- The scheduler was not told of any other alarm. -/
theorem Agrees.others (h : Agrees fetched store o) (hsound : Sound lead store timers o)
    (hk : store.Keyed) (hdone : ∀ i, (o.stage i).IsDone)
    (heq : o.store.alarms.contains k = store.alarms.contains k) :
    o.timers.waiting.get? k = timers.waiting.get? k := by
  rw [hsound.timer k]
  cases ht : o.timer? k with
  | none => rfl
  | some t =>
    obtain ⟨d, -, i, now, -, intent, -, -, -, hbefore, hafter⟩ :=
      h.exists_intent hsound hk hdone ht
    rw [hbefore, hafter] at heq
    exact absurd heq (by simp)

/-- **Overlapping passes over one listing have the effect of one.** -/
theorem asOne_run [DecidableEq ι] [Nonempty ι] (hk : store.Keyed) {moves : List (Move ι)}
    (hmoves : ∀ m ∈ moves, ∃ i now elapsed, m = .turn i fetched now elapsed)
    (hdone : ∀ i, (((begin ι store timers).run lead moves).stage i).IsDone) :
    AsOne lead fetched store timers ((begin ι store timers).run lead moves) := by
  have hagrees : Agrees fetched store ((begin ι store timers).run lead moves) :=
    agrees_run hk hmoves
  have hsound : Sound lead store timers ((begin ι store timers).run lead moves) :=
    sound_run hk moves
  obtain ⟨i⟩ := ‹Nonempty ι›
  exact {
    store_eq := fun now => by
      rw [hagrees.store_eq_final (hdone i), Pass.store_run_eq_final]
    ids := fun i diff hi => hagrees.ids hk hi
    added := fun k a hbefore hafter => hagrees.added hsound hk hdone hbefore hafter
    removed := fun k a hbefore hafter => hagrees.removed hsound hk hdone hbefore hafter
    others := fun k heq => hagrees.others hsound hk hdone heq }

/-- The passes over the laundry have the effect of one, which leaves only the washer's run. -/
theorem asOne_run_laundry :
    (Store.database Pass.laundryDatabase).Keyed ∧
      (∀ m ∈ laundryMoves, ∃ i now elapsed, m = .turn i (.ok Pass.laundryHistories) now elapsed) ∧
      (∀ i, (laundryOverlap.stage i).IsDone) ∧
      laundryOverlap.store.alarms.values.map (·.id) = [105] ∧
      AsOne ⟨600 * 1000000000⟩ (.ok Pass.laundryHistories) (.database Pass.laundryDatabase)
        laundryTimers laundryOverlap := by
  have hmoves : ∀ m ∈ laundryMoves, ∃ i now elapsed,
      m = .turn i (.ok Pass.laundryHistories) now elapsed := by
    intro m hm
    obtain ⟨round, hround, hm⟩ := List.mem_flatten.mp hm
    obtain rfl := List.eq_of_mem_replicate hround
    rcases List.mem_pair.mp hm with rfl | rfl <;> exact ⟨_, _, _, rfl⟩
  exact ⟨keyed_laundry, hmoves, isDone_laundry, rfl,
    asOne_run keyed_laundry hmoves isDone_laundry⟩

end Overlap

end Household
