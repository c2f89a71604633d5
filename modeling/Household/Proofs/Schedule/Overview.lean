import Household.Proofs.Schedule.Latest

/-!
# What a Line of the Overview Says

A line shows the latest run of a device, and its state is that of this run alone. Since no run of
the device starts later, the state still says something about all of them: a device is scheduled as
long as one of its runs is to come. After that it is active until its latest run has ended.

An overview fails as a whole when the end of one of the latest runs is out of range. It is only
computed for runs that have started.

## Main results

* `exists_overviewAt_eq_ok_iff`: when there is an overview.
* `DeviceState.rank_le_of_le`: the state of a run moves forward only.
* `exists_overviewAt_isLine`: what the lines of an overview say, and how they change with time.
-/

namespace Household

/-! ### The state of a run -/

namespace DeviceState

/-- How far the runs of a device have got. -/
def rank : DeviceState → Nat
  | .scheduled => 0
  | .active => 1
  | .inactive => 2

variable {now later : Instant} {t : Task} {e : Event} {s s' : DeviceState}

/-- **The state of a run.** It is scheduled as long as it is to come, then active up to its end. -/
theorem ofRun_eq_ok_iff :
    ofRun (some ⟨t, some e⟩) now = .ok s ↔
      (now < e.start ∧ s = .scheduled) ∨
        (e.start ≤ now ∧ ∃ finish, (⟨t, some e⟩ : TaskEvent).endTime = .ok (some finish) ∧
          s = if now < finish then .active else .inactive) := by
  rcases lt_or_ge now e.start with hlt | hle
  · simp [ofRun, hlt, hlt.not_ge, eq_comm]
  · simp only [ofRun, TaskEvent.endTime, hle, hle.not_gt, if_false, true_and, false_and, false_or,
      bind, Except.bind]
    cases t.duration with
    | error err => simp
    | ok span => cases hadd : e.start.add span <;> simp [hadd, pure, Except.pure, eq_comm]

/-- There is a state exactly if a run that has started has an end. -/
theorem exists_ofRun_eq_ok_iff {run : Option TaskEvent} :
    (∃ s, ofRun run now = .ok s) ↔
      ∀ te ∈ run, ∀ e ∈ te.event, e.start ≤ now → ∃ finish, te.endTime = .ok (some finish) := by
  match run with
  | none => exact iff_of_true ⟨.inactive, rfl⟩ (by simp)
  | some ⟨t, none⟩ => exact iff_of_true ⟨.inactive, rfl⟩ (by simp)
  | some ⟨t, some e⟩ =>
    simp only [ofRun_eq_ok_iff, Option.mem_def, Option.some.injEq, forall_eq']
    constructor
    · rintro ⟨s, ⟨hlt, -⟩ | ⟨-, finish, hend, -⟩⟩ hle
      · exact absurd hle hlt.not_ge
      · exact ⟨finish, hend⟩
    · intro h
      rcases lt_or_ge now e.start with hlt | hle
      · exact ⟨_, .inl ⟨hlt, rfl⟩⟩
      · obtain ⟨finish, hend⟩ := h hle
        exact ⟨_, .inr ⟨hle, finish, hend, rfl⟩⟩

/-- A run is scheduled as long as it is to come. -/
theorem eq_scheduled_iff (hs : ofRun (some ⟨t, some e⟩) now = .ok s) :
    s = .scheduled ↔ now < e.start := by
  rcases ofRun_eq_ok_iff.mp hs with ⟨hlt, rfl⟩ | ⟨hle, finish, hend, rfl⟩
  · exact iff_of_true rfl hlt
  · exact iff_of_false (by split <;> simp) hle.not_gt

/-- A run that has started is active as long as it has not ended. -/
theorem eq_active_iff (hs : ofRun (some ⟨t, some e⟩) now = .ok s) :
    s = .active ↔ e.start ≤ now ∧
      ∃ finish, (⟨t, some e⟩ : TaskEvent).endTime = .ok (some finish) ∧ now < finish := by
  rcases ofRun_eq_ok_iff.mp hs with ⟨hlt, rfl⟩ | ⟨hle, finish, hend, rfl⟩
  · exact iff_of_false (by simp) fun h => h.1.not_gt hlt
  · simp [hle, hend]

/-- A run that has ended is inactive. -/
theorem eq_inactive_iff (hs : ofRun (some ⟨t, some e⟩) now = .ok s) :
    s = .inactive ↔ e.start ≤ now ∧
      ∃ finish, (⟨t, some e⟩ : TaskEvent).endTime = .ok (some finish) ∧ finish ≤ now := by
  rcases ofRun_eq_ok_iff.mp hs with ⟨hlt, rfl⟩ | ⟨hle, finish, hend, rfl⟩
  · exact iff_of_false (by simp) fun h => h.1.not_gt hlt
  · simp [hle, hend]

/-- **The state of a run moves forward only**: from scheduled to active to inactive. -/
theorem rank_le_of_le {run : Option TaskEvent} (h : now ≤ later) (hs : ofRun run now = .ok s)
    (hs' : ofRun run later = .ok s') : s.rank ≤ s'.rank := by
  match run with
  | none =>
    obtain rfl := Except.ok.inj hs
    obtain rfl := Except.ok.inj hs'
    exact Nat.le_refl _
  | some ⟨t, none⟩ =>
    obtain rfl := Except.ok.inj hs
    obtain rfl := Except.ok.inj hs'
    exact Nat.le_refl _
  | some ⟨t, some e⟩ =>
    rcases ofRun_eq_ok_iff.mp hs with ⟨-, rfl⟩ | ⟨hle, finish, hend, rfl⟩
    · exact Nat.zero_le _
    rcases ofRun_eq_ok_iff.mp hs' with ⟨hlt, -⟩ | ⟨-, finish', hend', rfl⟩
    · exact absurd (hle.trans h) hlt.not_ge
    obtain rfl := Option.some.inj (Except.ok.inj (hend.symm.trans hend'))
    by_cases hfinish : later < finish
    · rw [if_pos hfinish, if_pos (h.trans_lt hfinish)]
    · rw [if_neg hfinish]
      split <;> decide

end DeviceState

/-! ### Lines and their states -/

section Tagging

variable {α β ε : Type} {f : α → Except ε β}

/-- The elements of a list each with its result are a list when all results are there. -/
theorem mapM_tag_eq_ok_iff {l : List α} {r : List (α × β)} :
    (l.mapM fun a => do return (a, ← f a)) = .ok r ↔
      r.map (·.1) = l ∧ ∀ p ∈ r, f p.1 = .ok p.2 := by
  constructor
  · intro h
    induction l generalizing r with
    | nil =>
      obtain rfl := Except.ok.inj h
      simp
    | cons a l ih =>
      rw [List.mapM_cons] at h
      cases ha : f a with
      | error e =>
        rw [ha] at h
        cases h
      | ok b =>
        cases hl : l.mapM fun a => do return (a, ← f a) with
        | error e =>
          rw [ha, hl] at h
          cases h
        | ok bs =>
          rw [ha, hl] at h
          obtain ⟨rfl, hall⟩ := ih hl
          obtain rfl := Except.ok.inj h
          exact ⟨rfl, List.forall_mem_cons.mpr ⟨ha, hall⟩⟩
  · rintro ⟨rfl, h⟩
    induction r with
    | nil => rfl
    | cons p r ih =>
      obtain ⟨hp, hr⟩ := List.forall_mem_cons.mp h
      rw [List.map_cons, List.mapM_cons, hp, ih hr]
      rfl

/-- All results are there when each of them is. -/
theorem exists_mapM_tag_eq_ok_iff {l : List α} :
    (∃ r, (l.mapM fun a => do return (a, ← f a)) = .ok r) ↔ ∀ a ∈ l, ∃ b, f a = .ok b := by
  simp only [mapM_tag_eq_ok_iff]
  constructor
  · rintro ⟨r, rfl, hall⟩ a ha
    obtain ⟨p, hp, rfl⟩ := List.mem_map.mp ha
    exact ⟨p.2, hall p hp⟩
  · intro h
    induction l with
    | nil => exact ⟨[], rfl, by simp⟩
    | cons a l ih =>
      obtain ⟨⟨b, hb⟩, hl⟩ := List.forall_mem_cons.mp h
      obtain ⟨r, rfl, hr⟩ := ih hl
      exact ⟨(a, b) :: r, rfl, List.forall_mem_cons.mpr ⟨hb, hr⟩⟩

end Tagging

namespace History

variable {devices : List Device} {tasks : List Task} {events : List Event} {d : Device}
  {now : Instant} {state : DeviceState} {lines : List (OverviewLine × DeviceState)}

/-- The lines of an overview are those of the devices by name. -/
theorem overview_join (hd : (devices.map (·.id)).Nodup) (tasks : List Task) (events : List Event) :
    overview (join devices tasks events) = (sortDevices devices).map (lineOf tasks events) := by
  rw [overview, join_eq_map hd, List.map_map]
  rfl

/-- The overview has the lines of the devices by name, each with its state. -/
theorem overviewAt_join_eq_ok_iff (hd : (devices.map (·.id)).Nodup) :
    overviewAt (join devices tasks events) now = .ok lines ↔
      lines.map (·.1) = (sortDevices devices).map (lineOf tasks events) ∧
        ∀ l ∈ lines, DeviceState.ofRun l.1.run now = .ok l.2 := by
  rw [overviewAt,
    mapM_tag_eq_ok_iff (f := fun line : OverviewLine => DeviceState.ofRun line.run now),
    overview_join hd]

/-- Every device has one line, by name. -/
theorem map_device_overviewAt (hd : (devices.map (·.id)).Nodup)
    (h : overviewAt (join devices tasks events) now = .ok lines) :
    lines.map (·.1.device) = sortDevices devices := by
  calc lines.map (·.1.device) = (lines.map (·.1)).map (·.device) := by rw [List.map_map]; rfl
    _ = (sortDevices devices).map id := by
      rw [((overviewAt_join_eq_ok_iff hd).mp h).1, List.map_map]
      rfl
    _ = sortDevices devices := List.map_id _

/-- The latest runs that have started have an end: no sum is out of range. -/
def EndsFit (devices : List Device) (tasks : List Task) (events : List Event) (now : Instant) :
    Prop :=
  ∀ d ∈ devices, ∀ t e, IsLatest tasks events d t e → e.start ≤ now →
    ∃ finish, (⟨t, some e⟩ : TaskEvent).endTime = .ok (some finish)

/-- It is enough that every task could start at every event. -/
theorem endsFit_of_forall (h : ∀ t ∈ tasks, ∀ e ∈ events,
      (⟨t, some e⟩ : TaskEvent).endTime.isOk = true) : EndsFit devices tasks events now := by
  intro d _ t e hlatest _
  have hok := h t hlatest.task_mem e (picked?_spec hlatest.picked).1
  simp only [TaskEvent.endTime, bind, Except.bind] at hok ⊢
  cases hduration : t.duration with
  | error err => simp [hduration, Except.isOk, Except.toBool] at hok
  | ok span =>
    simp only [hduration] at hok ⊢
    cases hadd : e.start.add span with
    | error err => simp [hadd, Except.isOk, Except.toBool] at hok
    | ok finish => exact ⟨finish, rfl⟩

/-- **There is an overview exactly if no end is out of range.** -/
theorem exists_overviewAt_eq_ok_iff (hd : (devices.map (·.id)).Nodup)
    (ht : (tasks.map (·.id)).Nodup) :
    (∃ lines, overviewAt (join devices tasks events) now = .ok lines) ↔
      EndsFit devices tasks events now := by
  have hmem : ∀ d, d ∈ sortDevices devices ↔ d ∈ devices := fun d =>
    (isStableSort_sortDevices devices).perm.mem_iff
  have hline : ∀ d, (∃ s, DeviceState.ofRun (lineOf tasks events d).run now = .ok s) ↔
      ∀ t e, IsLatest tasks events d t e → e.start ≤ now →
        ∃ finish, (⟨t, some e⟩ : TaskEvent).endTime = .ok (some finish) := by
    intro d
    rw [DeviceState.exists_ofRun_eq_ok_iff]
    constructor
    · intro h t e hlatest
      exact h ⟨t, some e⟩ ((run_eq_some_iff ht).mpr ⟨e, rfl, hlatest⟩) e rfl
    · rintro h ⟨t, event⟩ hrun e he
      obtain ⟨e', he', hlatest⟩ := (run_eq_some_iff ht).mp hrun
      obtain rfl := Option.some.inj (he.symm.trans he')
      obtain rfl : event = some e := he
      exact h t e hlatest
  rw [overviewAt,
    exists_mapM_tag_eq_ok_iff (f := fun line : OverviewLine => DeviceState.ofRun line.run now),
    overview_join hd]
  simp only [List.forall_mem_map, hmem, hline, EndsFit]

/-! ### What a line says -/

/-- What a line says about the runs of its device at a moment. -/
structure IsLine (tasks : List Task) (events : List Event) (now : Instant) (line : OverviewLine)
    (state : DeviceState) : Prop where
  /-- It shows no run exactly if no task of the device has an event. -/
  none_iff : line.run = none ↔
    ∀ t ∈ tasks, t.deviceId = line.device.id → ∀ e ∈ events, e.taskId ≠ t.id
  /-- It shows the run that starts last, and of those the one listed first. -/
  some_iff : ∀ te, line.run = some te ↔
    ∃ e, te.event = some e ∧ IsLatest tasks events line.device te.task e
  /-- The device is scheduled as long as one of its runs is to come. -/
  scheduled_iff : state = .scheduled ↔
    ∃ t e, IsAttached tasks events line.device t e ∧ now < e.start
  /-- After that, it is active as long as its latest run has not ended. -/
  active_iff : state = .active ↔
    (∀ t e, IsAttached tasks events line.device t e → e.start ≤ now) ∧
      ∃ t e finish, IsLatest tasks events line.device t e ∧
        (⟨t, some e⟩ : TaskEvent).endTime = .ok (some finish) ∧ now < finish
  /-- Otherwise it is inactive: its latest run has ended, or it has none. -/
  inactive_iff : state = .inactive ↔
    (∀ t e, IsAttached tasks events line.device t e → e.start ≤ now) ∧
      ∀ t e, IsLatest tasks events line.device t e →
        ∃ finish, (⟨t, some e⟩ : TaskEvent).endTime = .ok (some finish) ∧ finish ≤ now

/-- One comparison decides about all runs of the device: if its latest one has started, all have. -/
theorem IsLatest.forall_start_le_iff {t : Task} {e : Event} (h : IsLatest tasks events d t e) :
    (∀ u f, IsAttached tasks events d u f → f.start ≤ now) ↔ e.start ≤ now :=
  ⟨fun hall => hall t e h.toIsAttached, fun hle _ _ hu => (h.start_le hu).trans hle⟩

/-- No event is attached to the tasks of a device exactly if none of them has an event. -/
theorem forall_not_isAttached_iff :
    (∀ t e, ¬ IsAttached tasks events d t e) ↔
      ∀ t ∈ tasks, t.deviceId = d.id → ∀ e ∈ events, e.taskId ≠ t.id := by
  constructor
  · intro h t hmem hdevice
    refine picked?_eq_none_iff.mp (Option.eq_none_iff_forall_ne_some.mpr fun e he => ?_)
    exact h t e ⟨hmem, hdevice, he⟩
  · rintro h t e ⟨hmem, hdevice, he⟩
    obtain ⟨hevent, htask, -⟩ := picked?_spec he
    exact h t hmem hdevice e hevent htask

/-- **What the line of a device says.** -/
theorem isLine_lineOf (ht : (tasks.map (·.id)).Nodup)
    (hs : DeviceState.ofRun (lineOf tasks events d).run now = .ok state) :
    IsLine tasks events now (lineOf tasks events d) state := by
  have hnone : (lineOf tasks events d).run = none ↔
      ∀ t ∈ tasks, t.deviceId = d.id → ∀ e ∈ events, e.taskId ≠ t.id :=
    (run_eq_none_iff ht).trans forall_not_isAttached_iff
  have hsome : ∀ te, (lineOf tasks events d).run = some te ↔
      ∃ e, te.event = some e ∧ IsLatest tasks events d te.task e :=
    fun _ => run_eq_some_iff ht
  cases hrun : (lineOf tasks events d).run with
  | none =>
    have hno : ∀ t e, ¬ IsAttached tasks events d t e := (run_eq_none_iff ht).mp hrun
    rw [hrun] at hs
    obtain rfl := Except.ok.inj hs
    refine ⟨hnone, hsome, iff_of_false (by simp) ?_, iff_of_false (by simp) ?_, iff_of_true rfl ?_⟩
    · exact fun ⟨t, e, he, _⟩ => hno t e he
    · exact fun ⟨_, t, e, _, he, _⟩ => hno t e he.toIsAttached
    · exact ⟨fun t e he => absurd he (hno t e), fun t e he => absurd he.toIsAttached (hno t e)⟩
  | some te =>
    obtain ⟨t, event⟩ := te
    obtain ⟨e, he, hlatest⟩ := (hsome _).mp hrun
    obtain rfl : event = some e := he
    have hstarted : (∀ u f, IsAttached tasks events d u f → f.start ≤ now) ↔ e.start ≤ now :=
      hlatest.forall_start_le_iff
    rw [hrun] at hs
    refine ⟨hnone, hsome, ?_, ?_, ?_⟩
    · rw [DeviceState.eq_scheduled_iff hs, ← not_le, ← hstarted]
      simp only [not_forall, not_le, exists_prop]
      rfl
    · rw [DeviceState.eq_active_iff hs]
      refine and_congr hstarted.symm ⟨?_, ?_⟩
      · rintro ⟨finish, hend, hnow⟩
        exact ⟨t, e, finish, hlatest, hend, hnow⟩
      · rintro ⟨u, f, finish, hu, hend, hnow⟩
        obtain ⟨rfl, rfl⟩ := hu.unique hlatest
        exact ⟨finish, hend, hnow⟩
    · rw [DeviceState.eq_inactive_iff hs]
      refine and_congr hstarted.symm ⟨?_, fun h => h t e hlatest⟩
      rintro hend u f hu
      obtain ⟨rfl, rfl⟩ := hu.unique hlatest
      exact hend

/-- What each line of an overview says. -/
theorem isLine_of_mem (hd : (devices.map (·.id)).Nodup) (ht : (tasks.map (·.id)).Nodup)
    (h : overviewAt (join devices tasks events) now = .ok lines) {line : OverviewLine}
    (hl : (line, state) ∈ lines) : IsLine tasks events now line state := by
  obtain ⟨hmap, hstates⟩ := (overviewAt_join_eq_ok_iff hd).mp h
  have hline : line ∈ (sortDevices devices).map (lineOf tasks events) :=
    hmap ▸ List.mem_map_of_mem hl
  obtain ⟨d, -, rfl⟩ := List.mem_map.mp hline
  exact isLine_lineOf ht (hstates _ hl)

/-- **What the lines of an overview say.** Unless an end is out of range, there is one line for each
device, by name, and it speaks of all runs of the device. At any later moment there are the same
lines, with states that have only moved forward. -/
theorem exists_overviewAt_isLine (hd : (devices.map (·.id)).Nodup)
    (ht : (tasks.map (·.id)).Nodup) (now : Instant) (hfit : EndsFit devices tasks events now) :
    ∃ lines, overviewAt (join devices tasks events) now = .ok lines ∧
      IsStableSort Device.Precedes devices (lines.map (·.1.device)) ∧
      (∀ line state, (line, state) ∈ lines → IsLine tasks events now line state) ∧
      ∀ later, now ≤ later → EndsFit devices tasks events later →
        ∃ lines', overviewAt (join devices tasks events) later = .ok lines' ∧
          lines'.map (·.1) = lines.map (·.1) ∧
          ∀ line state state', (line, state) ∈ lines → (line, state') ∈ lines' →
            state.rank ≤ state'.rank := by
  obtain ⟨lines, hlines⟩ := (exists_overviewAt_eq_ok_iff hd ht).mpr hfit
  obtain ⟨hmap, hstates⟩ := (overviewAt_join_eq_ok_iff hd).mp hlines
  refine ⟨lines, hlines, ?_, fun line state => isLine_of_mem hd ht hlines, ?_⟩
  · rw [map_device_overviewAt hd hlines]
    exact isStableSort_sortDevices devices
  · intro later hle hfit'
    obtain ⟨lines', hlines'⟩ := (exists_overviewAt_eq_ok_iff hd ht).mpr hfit'
    obtain ⟨hmap', hstates'⟩ := (overviewAt_join_eq_ok_iff hd).mp hlines'
    exact ⟨lines', hlines', hmap'.trans hmap.symm, fun line state state' hl hl' =>
      DeviceState.rank_le_of_le hle (hstates _ hl) (hstates' _ hl')⟩

/-! ### A washer with three runs -/

/-- One o'clock on 1 January 1970. -/
def oneOClock : Instant :=
  { Instant.epoch with
    second := 3600
    first_le := by decide
    le_last := by decide
    leap_last := by decide }

/-- A washer. -/
def washer : Device :=
  ⟨1, "Washer", .zero⟩

/-- A long task of the washer and two short ones. -/
def washerTasks : List Task :=
  [⟨10, 1, ⟨.epoch, oneOClock⟩, 7200000⟩, ⟨11, 1, ⟨.epoch, oneOClock⟩, 60000⟩,
    ⟨12, 1, ⟨.epoch, oneOClock⟩, 60000⟩]

/-- The long run starts at midnight and takes two hours; the short ones start together, an hour
later, and take a minute. -/
def washerEvents : List Event :=
  [⟨100, 10, .epoch⟩, ⟨101, 11, oneOClock⟩, ⟨102, 12, oneOClock⟩]

/-- No end of the washer's runs is out of range. -/
theorem endsFit_washer (now : Instant) : EndsFit [washer] washerTasks washerEvents now :=
  endsFit_of_forall (by decide)

/-- What the line of the washer says at midnight. -/
theorem exists_overviewAt_isLine_washer :
    ([washer].map (·.id)).Nodup ∧ (washerTasks.map (·.id)).Nodup ∧
      EndsFit [washer] washerTasks washerEvents .epoch ∧
      ∃ lines, overviewAt (join [washer] washerTasks washerEvents) .epoch = .ok lines ∧
        IsStableSort Device.Precedes [washer] (lines.map (·.1.device)) ∧
        (∀ line state, (line, state) ∈ lines →
          IsLine washerTasks washerEvents .epoch line state) ∧
        ∀ later, .epoch ≤ later → EndsFit [washer] washerTasks washerEvents later →
          ∃ lines', overviewAt (join [washer] washerTasks washerEvents) later = .ok lines' ∧
            lines'.map (·.1) = lines.map (·.1) ∧
            ∀ line state state', (line, state) ∈ lines → (line, state') ∈ lines' →
              state.rank ≤ state'.rank := by
  have hd : ([washer].map (·.id)).Nodup := by decide
  have ht : (washerTasks.map (·.id)).Nodup := by decide
  exact ⟨hd, ht, endsFit_washer _,
    exists_overviewAt_isLine hd ht .epoch (endsFit_washer _)⟩

end History

end Household
