import Household.Proofs.Api.Telling
import Household.Proofs.Schedule.Overview

/-!
# What Clients Are Told of a Running Device

The overview tells of one run for each device, its latest. So a running device is told to be active
if its latest run is going on. It is told to be scheduled when a further run is to come, and
inactive when a run that started later is over before the one that is going on.

## Main results

* `Endpoint.ofRequest?_overview`: the request that is answered with an overview.
* `exists_respond_of_isCurrent`: what clients are told of a running device.
-/

namespace Household

/-! ### Runs that are going on -/

namespace History

variable {devices : List Device} {tasks : List Task} {events : List Event} {d : Device}
  {t u : Task} {e f : Event} {now : Instant} {line : OverviewLine} {state : DeviceState}
  {lines : List (OverviewLine × DeviceState)}

/-- The run has started and has not ended. -/
def IsCurrent (now : Instant) (t : Task) (e : Event) : Prop :=
  e.start ≤ now ∧ ∃ finish, (⟨t, some e⟩ : TaskEvent).endTime = .ok (some finish) ∧ now < finish

/-- The run has ended. -/
def IsOver (now : Instant) (t : Task) (e : Event) : Prop :=
  e.start ≤ now ∧ ∃ finish, (⟨t, some e⟩ : TaskEvent).endTime = .ok (some finish) ∧ finish ≤ now

/-- A run that is going on has not ended. -/
theorem IsCurrent.not_isOver (h : IsCurrent now t e) : ¬ IsOver now t e := by
  rintro ⟨-, finish, hend, hle⟩
  obtain ⟨-, finish', hend', hlt⟩ := h
  obtain rfl := Option.some.inj (Except.ok.inj (hend.symm.trans hend'))
  exact hle.not_gt hlt

/-- A task has one event only. -/
theorem IsAttached.event_eq (he : IsAttached tasks events d t e)
    (hf : IsAttached tasks events d t f) : e = f :=
  Option.some.inj (he.picked.symm.trans hf.picked)

/-- A device with a run has a latest one. -/
theorem exists_isLatest (ht : (tasks.map (·.id)).Nodup) (h : IsAttached tasks events d t e) :
    ∃ u f, IsLatest tasks events d u f := by
  cases hrun : (lineOf tasks events d).run with
  | none => exact absurd h ((run_eq_none_iff ht).mp hrun t e)
  | some te =>
    obtain ⟨f, -, hlatest⟩ := isLatest_of_run_eq_some ht hrun
    exact ⟨te.task, f, hlatest⟩

namespace IsLine

/-- A device is active when its latest run is going on. -/
theorem eq_active_iff (h : IsLine tasks events now line state) :
    state = .active ↔ ∃ u f, IsLatest tasks events line.device u f ∧ IsCurrent now u f := by
  rw [h.active_iff]
  constructor
  · rintro ⟨hall, u, f, finish, hlatest, hend, hlt⟩
    exact ⟨u, f, hlatest, hall u f hlatest.toIsAttached, finish, hend, hlt⟩
  · rintro ⟨u, f, hlatest, hle, finish, hend, hlt⟩
    exact ⟨hlatest.forall_start_le_iff.mpr hle, u, f, finish, hlatest, hend, hlt⟩

/-- A running device is scheduled when a further run is to come. -/
theorem eq_scheduled_iff (h : IsLine tasks events now line state)
    (hrun : IsAttached tasks events line.device t e) (hnow : IsCurrent now t e) :
    state = .scheduled ↔
      ∃ u f, u ≠ t ∧ IsAttached tasks events line.device u f ∧ now < f.start := by
  rw [h.scheduled_iff]
  constructor
  · rintro ⟨u, f, hu, hlt⟩
    refine ⟨u, f, ?_, hu, hlt⟩
    rintro rfl
    obtain rfl := hrun.event_eq hu
    exact hnow.1.not_gt hlt
  · rintro ⟨u, f, -, hu, hlt⟩
    exact ⟨u, f, hu, hlt⟩

/-- A running device is inactive when a run that started later has ended. -/
theorem eq_inactive_iff (ht : (tasks.map (·.id)).Nodup) (h : IsLine tasks events now line state)
    (hrun : IsAttached tasks events line.device t e) (hnow : IsCurrent now t e) :
    state = .inactive ↔
      ∃ u f, u ≠ t ∧ IsLatest tasks events line.device u f ∧ IsOver now u f := by
  rw [h.inactive_iff]
  constructor
  · rintro ⟨hall, hover⟩
    obtain ⟨u, f, hlatest⟩ := exists_isLatest ht hrun
    have huf : IsOver now u f := ⟨hall u f hlatest.toIsAttached, hover u f hlatest⟩
    refine ⟨u, f, ?_, hlatest, huf⟩
    rintro rfl
    obtain rfl := hrun.event_eq hlatest.toIsAttached
    exact hnow.not_isOver huf
  · rintro ⟨u, f, -, hlatest, hle, hover⟩
    refine ⟨hlatest.forall_start_le_iff.mpr hle, fun v g hv => ?_⟩
    obtain ⟨rfl, rfl⟩ := hv.unique hlatest
    exact hover

end IsLine

/-- A device has one line in an overview. -/
theorem exists_filter_overviewAt_eq (hd : (devices.map (·.id)).Nodup)
    (h : overviewAt (join devices tasks events) now = .ok lines) (hdevice : d ∈ devices) :
    ∃ line state, lines.filter (·.1.device.id = d.id) = [(line, state)] ∧ line.device = d := by
  have hperm : (lines.map (·.1.device)).Perm devices := by
    rw [map_device_overviewAt hd h]
    exact (isStableSort_sortDevices devices).perm
  obtain ⟨⟨line, state⟩, hl, rfl⟩ := List.mem_map.mp (hperm.mem_iff.mpr hdevice)
  have hids : (lines.map (·.1.device.id)).Nodup := by
    have hnodup := (hperm.map (·.id)).nodup_iff.mpr hd
    rwa [List.map_map] at hnodup
  exact ⟨line, state, Table.filter_eq_singleton_of_nodup hids hl, rfl⟩

end History

namespace Api

open History

variable {devices : List Device} {tasks : List Task} {events : List Event} {d : Device}
  {t : Task} {e : Event} {now : Instant}

/-- The request that is answered with an overview. -/
theorem Endpoint.ofRequest?_overview (contentType : Option String) (body : String) :
    ofRequest? ⟨"GET", "/api/overview", contentType, body⟩ = some .overview := by
  have hsegments : pathSegments "/api/overview" = ["", "api", "overview"] := by decide
  simp only [ofRequest?, hsegments]

/-- **What clients are told of a running device.** It has one line in the overview, which is read in
the text of the body. There it is active when its latest run is going on, scheduled when a further
run is to come, and inactive when its latest run is another one that has ended. -/
theorem exists_respond_of_isCurrent {σ : Type} (b : Backend σ) (s : σ) {r : Request}
    (hr : Endpoint.ofRequest? r = some .overview)
    (hserved : b.histories s = .ok (join devices tasks events))
    (hd : (devices.map (·.id)).Nodup) (ht : (tasks.map (·.id)).Nodup)
    (hfit : EndsFit devices tasks events now) (hdevice : d ∈ devices)
    (hrun : IsAttached tasks events d t e) (hnow : IsCurrent now t e) :
    ∃ reply lines line state, respond b now r s = (.ok reply, s) ∧
      reply =
        .json 200 (Json.list (fun (line, state) => OverviewLine.toJson line state) lines) ∧
      reply.Tells (Json.list? SeenLine.ofJson?)
        (lines.map fun (line, state) => line.seen state) ∧
      lines.filter (·.1.device.id = d.id) = [(line, state)] ∧ line.device = d ∧
      (state = .active ↔ ∃ u f, IsLatest tasks events d u f ∧ IsCurrent now u f) ∧
      (state = .scheduled ↔ ∃ u f, u ≠ t ∧ IsAttached tasks events d u f ∧ now < f.start) ∧
      (state = .inactive ↔ ∃ u f, u ≠ t ∧ IsLatest tasks events d u f ∧ IsOver now u f) := by
  obtain ⟨lines, hlines⟩ := (exists_overviewAt_eq_ok_iff hd ht).mpr hfit
  obtain ⟨line, state, hfilter, rfl⟩ := exists_filter_overviewAt_eq hd hlines hdevice
  have hmem : (line, state) ∈ lines := List.mem_of_mem_filter (hfilter ▸ List.mem_singleton_self _)
  have hline := isLine_of_mem hd ht hlines hmem
  refine ⟨_, lines, line, state, ?_, rfl, Reply.tells_overview lines, hfilter, rfl,
    hline.eq_active_iff, hline.eq_scheduled_iff hrun hnow, hline.eq_inactive_iff ht hrun hnow⟩
  simp only [respond, hr, hserved, fromHistories, overviewReply, hlines]
  rfl

/-! ### The washer while its long run is going on -/

/-- Half past one on 1 January 1970. -/
def halfPastOne : Instant :=
  { Instant.epoch with
    second := 5400
    first_le := by decide
    le_last := by decide
    leap_last := by decide }

/-- The long run of the washer. -/
def longRun : Task × Event :=
  (⟨10, 1, ⟨.epoch, oneOClock⟩, 7200000⟩, ⟨100, 10, .epoch⟩)

/-- The short run of the washer that is listed first. -/
def shortRun : Task × Event :=
  (⟨11, 1, ⟨.epoch, oneOClock⟩, 60000⟩, ⟨101, 11, oneOClock⟩)

/-- A program that serves the washer. -/
def washerBackend : Backend Unit where
  histories _ := .ok (join [washer] washerTasks washerEvents)
  create _ s := (.error .notAuthenticated, s)
  alarms _ := .ok []

/-- The long run is one of the washer's. -/
theorem isAttached_longRun :
    IsAttached washerTasks washerEvents washer longRun.1 longRun.2 :=
  ⟨by decide, by decide, by decide⟩

/-- The long run is still going on at half past one. -/
theorem isCurrent_longRun (hle : .epoch ≤ now) (hnow : now ≤ halfPastOne) :
    IsCurrent now longRun.1 longRun.2 := by
  have hend : ∃ finish, (⟨longRun.1, some longRun.2⟩ : TaskEvent).endTime = .ok (some finish) ∧
      halfPastOne < finish := ⟨_, rfl, by decide⟩
  obtain ⟨finish, hend, hlt⟩ := hend
  exact ⟨hle, finish, hend, hnow.trans_lt hlt⟩

/-- The short run is the washer's latest. -/
theorem isLatest_shortRun :
    IsLatest washerTasks washerEvents washer shortRun.1 shortRun.2 := by
  refine ⟨⟨by decide, by decide, by decide⟩, [longRun.1], washerTasks.drop 2, rfl, ?_, ?_⟩
  · rintro u f ⟨hmem, -, hpicked⟩
    obtain rfl := List.mem_singleton.mp hmem
    obtain rfl := Option.some.inj (isAttached_longRun.picked.symm.trans hpicked)
    decide
  · rintro u f ⟨-, -, hpicked⟩
    have hstart : ∀ f ∈ washerEvents, f.start ≤ oneOClock := by decide
    exact hstart f (picked?_spec hpicked).1

/-- The overview of the washer with its short run. -/
def washerReply (state : DeviceState) : Reply :=
  .json 200 (Json.list (fun (line, state) => OverviewLine.toJson line state)
    [(⟨washer, some ⟨shortRun.1, some shortRun.2⟩⟩, state)])

/-- The state is read in its text. -/
theorem tells_washerReply (state : DeviceState) :
    (washerReply state).Tells (Json.list? SeenLine.ofJson?)
      [⟨washer.seen, some ⟨shortRun.1, some shortRun.2⟩, state⟩] :=
  Reply.tells_overview [(⟨washer, some ⟨shortRun.1, some shortRun.2⟩⟩, state)]

/-- The overview of the washer has the state of its short run. -/
theorem respond_washer {state : DeviceState}
    (hs : DeviceState.ofRun (some ⟨shortRun.1, some shortRun.2⟩) now = .ok state) :
    respond washerBackend now ⟨"GET", "/api/overview", none, ""⟩ () =
      (.ok (washerReply state), ()) := by
  have hrun : (lineOf washerTasks washerEvents washer).run =
      some ⟨shortRun.1, some shortRun.2⟩ :=
    (run_eq_some_iff (by decide)).mpr ⟨_, rfl, isLatest_shortRun⟩
  have hline : lineOf washerTasks washerEvents washer =
      ⟨washer, some ⟨shortRun.1, some shortRun.2⟩⟩ :=
    congrArg (OverviewLine.mk washer) hrun
  have hlines : overviewAt (join [washer] washerTasks washerEvents) now =
      .ok [(⟨washer, some ⟨shortRun.1, some shortRun.2⟩⟩, state)] := by
    rw [overviewAt_join_eq_ok_iff (by decide), sortDevices, List.mergeSort_singleton,
      List.forall_mem_singleton]
    exact ⟨congrArg (fun line => [line]) hline.symm, hs⟩
  simp only [respond, Endpoint.ofRequest?_overview, washerBackend, fromHistories, overviewReply,
    hlines]
  rfl

/-- **A running device is not always told to be active.** The long run of the washer is going on at
midnight and at half past one. At midnight the washer is told to be scheduled, since a short run is
to come; at half past one it is told to be inactive, since that run is over. -/
theorem respond_scheduled_and_inactive :
    (([washer].map (·.id)).Nodup ∧ (washerTasks.map (·.id)).Nodup ∧
      (washerEvents.map (·.id)).Nodup) ∧
    (∀ t ∈ washerTasks, 0 < t.durationMs.toInt) ∧
    (∀ t ∈ washerTasks, ∀ e ∈ washerEvents,
      (⟨t, some e⟩ : TaskEvent).endTime.isOk = true) ∧
    IsAttached washerTasks washerEvents washer longRun.1 longRun.2 ∧
    (IsCurrent .epoch longRun.1 longRun.2 ∧
      respond washerBackend .epoch ⟨"GET", "/api/overview", none, ""⟩ () =
        (.ok (washerReply .scheduled), ()) ∧
      (washerReply .scheduled).Tells (Json.list? SeenLine.ofJson?)
        [⟨washer.seen, some ⟨shortRun.1, some shortRun.2⟩, .scheduled⟩]) ∧
    IsCurrent halfPastOne longRun.1 longRun.2 ∧
      respond washerBackend halfPastOne ⟨"GET", "/api/overview", none, ""⟩ () =
        (.ok (washerReply .inactive), ()) ∧
      (washerReply .inactive).Tells (Json.list? SeenLine.ofJson?)
        [⟨washer.seen, some ⟨shortRun.1, some shortRun.2⟩, .inactive⟩] := by
  exact ⟨⟨by decide, by decide, by decide⟩, by decide, by decide, isAttached_longRun,
    ⟨isCurrent_longRun (by decide) (by decide), respond_washer rfl, tells_washerReply _⟩,
    isCurrent_longRun (by decide) (by decide), respond_washer rfl, tells_washerReply _⟩

/-- What clients are told of the washer at midnight. -/
theorem exists_respond_of_isCurrent_washer :
    Endpoint.ofRequest? ⟨"GET", "/api/overview", none, ""⟩ = some .overview ∧
      washerBackend.histories () = .ok (join [washer] washerTasks washerEvents) ∧
      ([washer].map (·.id)).Nodup ∧ (washerTasks.map (·.id)).Nodup ∧
      EndsFit [washer] washerTasks washerEvents .epoch ∧ washer ∈ [washer] ∧
      IsAttached washerTasks washerEvents washer longRun.1 longRun.2 ∧
      IsCurrent .epoch longRun.1 longRun.2 ∧
      ∃ reply lines line state,
        respond washerBackend .epoch ⟨"GET", "/api/overview", none, ""⟩ () = (.ok reply, ()) ∧
        reply =
          .json 200 (Json.list (fun (line, state) => OverviewLine.toJson line state) lines) ∧
        reply.Tells (Json.list? SeenLine.ofJson?)
          (lines.map fun (line, state) => line.seen state) ∧
        lines.filter (·.1.device.id = washer.id) = [(line, state)] ∧ line.device = washer ∧
        (state = .active ↔
          ∃ u f, IsLatest washerTasks washerEvents washer u f ∧ IsCurrent .epoch u f) ∧
        (state = .scheduled ↔ ∃ u f, u ≠ longRun.1 ∧
          IsAttached washerTasks washerEvents washer u f ∧ .epoch < f.start) ∧
        (state = .inactive ↔ ∃ u f, u ≠ longRun.1 ∧
          IsLatest washerTasks washerEvents washer u f ∧ IsOver .epoch u f) := by
  have hr := Endpoint.ofRequest?_overview none ""
  have hd : ([washer].map (·.id)).Nodup := by decide
  have ht : (washerTasks.map (·.id)).Nodup := by decide
  have hfit := endsFit_washer .epoch
  have hdevice : washer ∈ [washer] := List.mem_singleton_self _
  have hnow : IsCurrent .epoch longRun.1 longRun.2 := isCurrent_longRun (by decide) (by decide)
  exact ⟨hr, rfl, hd, ht, hfit, hdevice, isAttached_longRun, hnow,
    exists_respond_of_isCurrent washerBackend () hr rfl hd ht hfit hdevice isAttached_longRun hnow⟩

end Api

end Household
