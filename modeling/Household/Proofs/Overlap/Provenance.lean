import Household.Proofs.Overlap.Basic

/-!
# Where Stored Alarms Come From

A stored alarm was inserted by some pass and has been left alone by every pass since then. It shows
what the server listed under its id at that time. Whether the server lists the same now is no matter
to a pass, which compares ids: runs that have been moved, made longer or renamed keep the alarms
that they have. So what is stored is up to date for the alarms that the last pass has added, and as
old as its insertion for every other one.

## Main results

* `Store.Reached.exists_origin`: a stored alarm is kept of what was listed under its id by the last
  pass that was about it.
* `Overlap.reached_run`: whatever stores overlapping passes lead to, this holds of them.
* `Pass.origin_run`: after a pass that got through, what the alarms show that it added, and all
  others.
-/

namespace Household

/-! ### Commits -/

/-- What a pass had listed and read when it committed its diff. -/
structure Commit where
  histories : List DeviceTask
  stored : List Alarm

/-- The diff of a commit. -/
def Commit.diff (c : Commit) : Diff :=
  Diff.reconcile c.histories c.stored

/-- An alarm that a commit inserts is what was listed first under its id. -/
theorem Commit.find?_of_mem_toInsert {c : Commit} {b : Alarm} (h : b ∈ c.diff.toInsert) :
    (Diff.alarmsOf c.histories).find? (·.id = b.id) = some b :=
  (Diff.mem_toInsert_iff.mp h).1

namespace Store

/-- The stores that commits lead to, with the commits that led there, the last first. What a pass
has read when it commits may be out of date by then, since passes may overlap. -/
inductive Reached : List Commit → Store → Prop
  /-- Nothing is in memory. -/
  | memory : Reached [] (.memory .empty)
  /-- The database is new. -/
  | database : Reached [] (.database .empty)
  /-- The database comes to refuse something, or ceases to. -/
  | trouble {past : List Commit} {s : Store} (outage? : Option Outage)
      (refusedWrites refusedDeletes : List Int64) (h : Reached past s) :
      Reached past (s.troubled outage? refusedWrites refusedDeletes)
  /-- A pass commits its diff. -/
  | commit {past : List Commit} {s s' : Store} (c : Commit) (h : Reached past s)
      (happly : s.apply c.diff = .ok s') : Reached (c :: past) s'

variable {past : List Commit} {s : Store} {k : Int64} {a : Alarm}

/-- A reached store keeps every alarm under its own id. -/
theorem Reached.keyed (h : Reached past s) : s.Keyed := by
  induction h with
  | memory => exact Table.Keyed.empty
  | database => exact Table.Keyed.empty
  | trouble _ _ _ _ ih => exact ih.troubled _ _ _
  | commit c _ happly ih =>
    rw [eq_written_of_apply happly]
    exact ih.written _

/-- **A stored alarm is kept of what was listed under its id by the last pass that was about
it.** -/
theorem Reached.exists_origin (h : Reached past s) (ha : s.alarms.get? k = some a) :
    ∃ later c earlier b, past = later ++ c :: earlier ∧
      (∀ c' ∈ later, k ∉ c'.diff.intents.map Intent.id) ∧
        b ∈ c.diff.toInsert ∧ b.id = k ∧ a = s.keep b := by
  induction h with
  | memory => cases ha
  | database => cases ha
  | trouble _ _ _ _ ih =>
    rw [alarms_troubled] at ha
    rw [keep_troubled]
    exact ih ha
  | @commit past s s' c _ happly ih =>
    obtain rfl := eq_written_of_apply happly
    rw [get?_alarms_written] at ha
    rw [keep_written]
    split at ha
    · cases ha
    · next hdel =>
      cases hfind : c.diff.toInsert.reverse.find? (·.id = k) with
      | some b =>
        rw [hfind] at ha
        obtain rfl := Option.some.inj ha
        exact ⟨[], c, past, b, rfl, by simp,
          List.mem_reverse.mp (List.mem_of_find?_eq_some hfind),
          by simpa using List.find?_some hfind, rfl⟩
      | none =>
        rw [hfind] at ha
        obtain ⟨later, origin, earlier, b, rfl, hlater, hb⟩ := ih ha
        refine ⟨c :: later, origin, earlier, b, rfl, List.forall_mem_cons.mpr ⟨?_, hlater⟩, hb⟩
        -- The commit neither inserts the id nor deletes it.
        rw [Pass.map_id_intents, List.mem_append, not_or]
        rw [Table.find?_eq_none_iff, List.map_reverse, List.mem_reverse] at hfind
        exact ⟨hfind, hdel⟩

end Store

namespace Pass

/-! ### Overlapping passes -/

/-- A diff that a pass is about to commit is that of some listing and some stored alarms. -/
def Stage.IsFounded : Stage → Prop
  | .committing diff => ∃ c : Commit, diff = c.diff
  | _ => True

/-- A step leads from a reached store to a reached one. -/
theorem Stepped.reached {view : View} {s s' : Store} {stage stage' : Stage}
    {cs : List TimerCommand} {past : List Commit} (h : Stepped view s stage stage' s' cs)
    (hs : s.Reached past) (hfounded : stage.IsFounded) :
    (∃ past', s'.Reached past') ∧ stage'.IsFounded := by
  cases h with
  | @decided histories stored _ _ => exact ⟨⟨past, hs⟩, ⟨histories, stored⟩, rfl⟩
  | committed happly =>
    obtain ⟨c, rfl⟩ := hfounded
    exact ⟨⟨c :: past, hs.commit c happly⟩, trivial⟩
  | _ => exact ⟨⟨past, hs⟩, trivial⟩

end Pass

/-- **Whatever store overlapping passes lead to is a reached one.** -/
theorem Overlap.reached_run {ι : Type} [DecidableEq ι] {lead : Span} {store : Store}
    {timers : Timers} {past : List Commit} (h : store.Reached past) (moves : List (Move ι)) :
    ∃ past', ((begin ι store timers).run lead moves).store.Reached past' := by
  have hbegin : (∃ past', (begin ι store timers).store.Reached past') ∧
      ∀ i, ((begin ι store timers).stage i).IsFounded :=
    ⟨⟨past, h⟩, fun _ => trivial⟩
  refine (run_induction (Q := fun _ => True)
    (P := fun o => (∃ past', o.store.Reached past') ∧ ∀ i, (o.stage i).IsFounded)
    (fun o m _ ho => ?_) hbegin fun _ _ => trivial).1
  obtain ⟨⟨past', hreached⟩, hfounded⟩ := ho
  cases m with
  | turn i fetched now elapsed =>
    have hstep := Pass.stepped_step ⟨fetched, now, lead⟩ o.store (o.stage i)
    obtain ⟨hstore, hstage⟩ := hstep.reached hreached (hfounded i)
    exact ⟨hstore, forall_stage_turn hstage (fun j _ => hfounded j) elapsed⟩
  | trouble outage? refusedWrites refusedDeletes =>
    exact ⟨⟨past', hreached.trouble outage? refusedWrites refusedDeletes⟩, hfounded⟩

/-! ### After a pass -/

/-- A store keeps name and duration of every alarm. -/
theorem Store.keep_fields (s : Store) (a : Alarm) :
    (s.keep a).deviceName = a.deviceName ∧ (s.keep a).durationMs = a.durationMs := by
  cases s with
  | memory alarms => exact ⟨rfl, rfl⟩
  | database db => exact a.toRow_toAlarm_fields.2

/-- A store keeps an alarm as it is whose start is a whole number of milliseconds. -/
theorem Store.keep_of_isWhole (s : Store) {a : Alarm} (h : a.start.IsWhole)
    (hleap : a.start.isLeap = false) : s.keep a = a := by
  cases s with
  | memory alarms => rfl
  | database db => exact Alarm.stored_of_isWhole h hleap

namespace Pass

/-- What had been listed under the id of a run when its alarm was inserted, which is stored after a
pass over the run. -/
inductive Origin (past : List Commit) (before : Store) (d : Device) (t : Task) (e : Event) :
    Alarm → Prop
  /-- The pass has inserted the alarm, and the run was listed. -/
  | added (hbefore : before.alarms.get? e.id = none) :
      Origin past before d t e (Alarm.ofRun d t e)
  /-- The alarm was stored before, and has been left as it was. -/
  | kept {later earlier : List Commit} {c : Commit} {b : Alarm}
      (hbefore : before.alarms.get? e.id = some (before.keep b))
      (hpast : past = later ++ c :: earlier)
      (hlater : ∀ c' ∈ later, e.id ∉ c'.diff.intents.map Intent.id)
      (hlisted : (Diff.alarmsOf c.histories).find? (·.id = e.id) = some b) :
      Origin past before d t e b

variable {devices : List Device} {tasks : List Task} {events : List Event}

/-- **After a pass that got through, every stored alarm is that of a run that is served now.** If
the pass has added it, it shows this run; otherwise it is as it was, and shows what was listed by
the pass that inserted it. A start is shown as it is if it is a whole number of milliseconds and not
in a leap second. -/
theorem origin_run (hd : (devices.map (·.id)).Nodup) (ht : (tasks.map (·.id)).Nodup)
    (he : (events.map (·.id)).Nodup) {past : List Commit} {store : Store}
    (h : store.Reached past) (now : Instant) (lead : Span) :
    let served : Served := ⟨.ok devices, .ok tasks, .ok events⟩
    let report := run ⟨served.histories, now, lead⟩ store
    ∀ diff, report.result = .ok diff → ∀ k a, report.store.alarms.get? k = some a →
      ∃ d t e b, History.IsRun devices tasks events d t e ∧ e.id = k ∧ Origin past store d t e b ∧
        a = store.keep b ∧ a.deviceName = b.deviceName ∧ a.durationMs = b.durationMs ∧
          (b.start.IsWhole → b.start.isLeap = false → a.start = b.start) := by
  intro served report diff hresult k a ha
  have hserved : served.histories = .ok (History.join devices tasks events) := rfl
  have hcases : Outcome ⟨served.histories, now, lead⟩ store report := outcome_run _ _
  generalize report = r at hcases hresult ha
  cases hcases with
  | unserved hfetched => cases hresult
  | unstored _ _ => cases hresult
  | @committed histories stored store' hfetched hall happly =>
    obtain rfl := Except.ok.inj (hserved.symm.trans hfetched)
    rw [committed, Store.get?_written_reconcile h.keyed hall] at ha
    split at ha
    · next hlisted =>
      obtain ⟨d, t, e, hrun, rfl⟩ := (Diff.mem_map_alarmsOf_join_iff hd ht he).mp hlisted
      obtain ⟨b, horigin, rfl⟩ : ∃ b, Origin past store d t e b ∧ a = store.keep b := by
        cases hbefore : store.alarms.get? e.id with
        | none =>
          rw [hbefore, Option.none_or] at ha
          obtain ⟨b, hb, rfl⟩ := Option.map_eq_some_iff.mp ha
          obtain ⟨d', t', e', hrun', rfl⟩ :=
            (Diff.mem_alarmsOf_join_iff hd ht he).mp (List.mem_of_find?_eq_some hb)
          have hid : (Alarm.ofRun d' t' e').id = e.id := by simpa using List.find?_some hb
          obtain ⟨rfl, rfl, rfl⟩ := hrun'.eq_of_id_eq hd ht he hrun hid
          exact ⟨_, .added hbefore, rfl⟩
        | some a' =>
          rw [hbefore, Option.some_or] at ha
          obtain rfl := Option.some.inj ha
          obtain ⟨later, c, earlier, b, hpast, hlater, hb, hid, rfl⟩ := h.exists_origin hbefore
          exact ⟨b, .kept hbefore hpast hlater (hid ▸ c.find?_of_mem_toInsert hb), rfl⟩
      obtain ⟨hname, hduration⟩ := store.keep_fields b
      exact ⟨d, t, e, b, hrun, rfl, horigin, rfl, hname, hduration,
        fun hwhole hleap => congrArg Alarm.start (store.keep_of_isWhole hwhole hleap)⟩
    · cases ha

/-! ### One washer -/

/-- The lists of a household with one run. -/
def washerServed (name : String) (durationMs : Int64) (start : Instant) : Served :=
  ⟨.ok [⟨1, name, .zero⟩], .ok [⟨10, 1, ⟨.epoch, noon⟩, durationMs⟩], .ok [⟨105, 10, start⟩]⟩

/-- The histories of a household with one run. -/
theorem histories_washerServed (name : String) (durationMs : Int64) (start : Instant) :
    (washerServed name durationMs start).histories =
      .ok [⟨⟨1, name, .zero⟩, [⟨⟨10, 1, ⟨.epoch, noon⟩, durationMs⟩, some ⟨105, 10, start⟩⟩]⟩] := by
  have hdevices : History.sortDevices [⟨1, name, .zero⟩] = [⟨1, name, .zero⟩] :=
    List.mergeSort_singleton _
  have htasks : History.sort [⟨⟨10, 1, ⟨.epoch, noon⟩, durationMs⟩, some ⟨105, 10, start⟩⟩] =
      [⟨⟨10, 1, ⟨.epoch, noon⟩, durationMs⟩, some ⟨105, 10, start⟩⟩] :=
    List.mergeSort_singleton _
  refine congrArg Except.ok ?_
  rw [History.join, hdevices]
  exact congrArg (fun l => [DeviceTask.mk ⟨1, name, .zero⟩ l]) htasks

/-- The leap second at the end of 2016. -/
def leapSecond : Instant :=
  { lastLeap with
    second := 1483228799
    first_le := by decide
    le_last := by decide
    leap_last := by decide }

/-- A new database after a pass over the laundry. -/
def laundryStore : Store :=
  (run ⟨.ok laundryHistories, .epoch, ⟨600 * 1000000000⟩⟩ (.database .empty)).store

/-- The database after a pass over the laundry is a reached one. -/
theorem reached_laundryStore : laundryStore.Reached [⟨laundryHistories, []⟩] :=
  Store.Reached.database.commit ⟨laundryHistories, []⟩ rfl

/-- After another pass over the laundry the alarm of the washer's run is what was listed for it. -/
theorem origin_run_laundry :
    (laundryDevices.map (·.id)).Nodup ∧ (laundryTasks.map (·.id)).Nodup ∧
      (laundryEvents.map (·.id)).Nodup ∧ laundryStore.Reached [⟨laundryHistories, []⟩] ∧
      (run (laundryView noon) laundryStore).result = .ok ⟨[], []⟩ ∧
      (run (laundryView noon) laundryStore).store.alarms.get? 105 =
        some ⟨105, "Washer", noon, 300000⟩ ∧
      ∃ d t e b, History.IsRun laundryDevices laundryTasks laundryEvents d t e ∧ e.id = 105 ∧
        Origin [⟨laundryHistories, []⟩] laundryStore d t e b ∧
          ⟨105, "Washer", noon, 300000⟩ = laundryStore.keep b := by
  have hd : (laundryDevices.map (·.id)).Nodup := by decide
  have ht : (laundryTasks.map (·.id)).Nodup := by decide
  have he : (laundryEvents.map (·.id)).Nodup := by decide
  have hserved : (laundryView noon).fetched = .ok laundryHistories :=
    congrArg Except.ok join_laundry
  have hrun : run (laundryView noon) laundryStore = ⟨.ok ⟨[], []⟩, laundryStore, []⟩ :=
    run_of_isEmpty hserved rfl rfl
  have hresult := congrArg Report.result hrun
  have hstored : (run (laundryView noon) laundryStore).store.alarms.get? 105 =
      some ⟨105, "Washer", noon, 300000⟩ := by
    rw [hrun]
    rfl
  obtain ⟨d, t, e, b, hisRun, hid, horigin, hkept, -⟩ :=
    origin_run hd ht he reached_laundryStore noon ⟨600 * 1000000000⟩ _ hresult 105 _ hstored
  exact ⟨hd, ht, he, reached_laundryStore, hresult, hstored, d, t, e, b, hisRun, hid, horigin,
    hkept⟩

/-- The washer has been renamed, and its run moved to the epoch and made longer. A pass gets
through, and the alarm of the run is as it was. Where an alarm is added whose run starts with a leap
second, the alarm starts at another time. -/
theorem outdated_washer :
    laundryStore.Reached [⟨laundryHistories, []⟩] ∧
      History.IsRun [⟨1, "Dryer", .zero⟩] [⟨10, 1, ⟨.epoch, noon⟩, 600000⟩] [⟨105, 10, .epoch⟩]
        ⟨1, "Dryer", .zero⟩ ⟨10, 1, ⟨.epoch, noon⟩, 600000⟩ ⟨105, 10, .epoch⟩ ∧
      (run ⟨(washerServed "Dryer" 600000 .epoch).histories, noon, ⟨600 * 1000000000⟩⟩
        laundryStore).result = .ok ⟨[], []⟩ ∧
      (run ⟨(washerServed "Dryer" 600000 .epoch).histories, noon, ⟨600 * 1000000000⟩⟩
        laundryStore).store.alarms.get? 105 = some ⟨105, "Washer", noon, 300000⟩ ∧
      Instant.epoch.IsWhole ∧ noon ≠ .epoch ∧
      (∃ start, (run ⟨(washerServed "Washer" 300000 leapSecond).histories, .epoch,
          ⟨600 * 1000000000⟩⟩ (.database .empty)).store.alarms.get? 105 =
            some ⟨105, "Washer", start, 300000⟩ ∧ start ≠ leapSecond) ∧
      leapSecond.IsWhole := by
  rw [histories_washerServed, histories_washerServed]
  have hwhole : leapSecond.nano % 1000000 = 0 := by decide
  refine ⟨reached_laundryStore, ⟨by simp, by simp, by simp, rfl, rfl, by simp⟩, rfl, rfl, rfl,
    fun h => ?_, ⟨_, rfl, ?_⟩, hwhole⟩
  · exact absurd (congrArg Instant.second h) (by decide)
  · decide

end Pass

end Household
