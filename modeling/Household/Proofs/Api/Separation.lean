import Household.Proofs.Api.Overview

/-!
# Lines That Stand on Their Own

All lines of an overview come out of one join and one loop. When no device id and no task id is
repeated, the line of a device is still the one computed from this device alone, with only its own
tasks and the events of those. What devices do share is the answer: the loop ends at the first line
without a state, and a line has none if its run has started but has no end within the range of
instants. Then clients are not answered, and no device has a line.

## Main results

* `lineOf_own`: other devices, their tasks and their events have no part in a line.
* `overviewAt_join_eq_ok_iff_alone`: an overview is made of the lines computed alone.
* `respond_lines_alone`: when clients are answered with an overview, and with what.
* `exists_line_alone_not_answered`: one device can prevent the lines of all.
-/

namespace Household

namespace History

variable {devices : List Device} {tasks : List Task} {events : List Event} {d : Device}
  {t : Task} {now : Instant} {lines : List (OverviewLine × DeviceState)}

/-! ### What belongs to a device -/

/-- The tasks of a device. -/
def ownTasks (tasks : List Task) (d : Device) : List Task :=
  tasks.filter (·.deviceId = d.id)

/-- The events of the tasks of a device. -/
def ownEvents (tasks : List Task) (events : List Event) (d : Device) : List Event :=
  events.filter fun e => e.taskId ∈ (ownTasks tasks d).map (·.id)

/-- The overview of one device with only what belongs to it. -/
def overviewAlone (tasks : List Task) (events : List Event) (now : Instant) (d : Device) :
    Except RangeError (List (OverviewLine × DeviceState)) :=
  overviewAt (join [d] (ownTasks tasks d) (ownEvents tasks events d)) now

/-- Leaving out events of other tasks does not change what is picked for a task. -/
theorem picked?_filter {p : Event → Bool} {k : Int64} (h : ∀ e, e.taskId = k → p e = true) :
    picked? (events.filter p) k = picked? events k := by
  rw [picked?, picked?, List.find?_filter]
  refine List.find?_congr fun e _ => ?_
  rw [decide_eq_decide, decide_eq_true_eq]
  constructor
  · rintro ⟨-, hk, hmax⟩
    exact ⟨hk, fun f hf hfk => hmax f (List.mem_filter.mpr ⟨hf, h f hfk⟩) hfk⟩
  · rintro ⟨hk, hmax⟩
    exact ⟨h e hk, hk, fun f hf => hmax f (List.mem_of_mem_filter hf)⟩

/-- The event of a task is picked among those of its device. -/
theorem picked?_ownEvents (ht : t ∈ ownTasks tasks d) (events : List Event) :
    picked? (ownEvents tasks events d) t.id = picked? events t.id := by
  refine picked?_filter fun e he => ?_
  rw [decide_eq_true_eq, he]
  exact List.mem_map_of_mem ht

/-- The tasks of a device keep the events that they carry. -/
theorem ownOf_own (ht : (tasks.map (·.id)).Nodup) (events : List Event) (d : Device) :
    ownOf (ownTasks tasks d) (ownEvents tasks events d) d.id = ownOf tasks events d.id := by
  have hown : ((ownTasks tasks d).map (·.id)).Nodup := ht.sublist (List.filter_sublist.map _)
  have hall : (ownTasks tasks d).filter (·.deviceId = d.id) = ownTasks tasks d :=
    List.filter_eq_self.mpr fun t htask => (List.mem_filter.mp htask).2
  rw [ownOf_eq_map hown, ownOf_eq_map ht, hall]
  exact List.map_congr_left fun t htask => congrArg (TaskEvent.mk t) (picked?_ownEvents htask _)

/-- **Other devices, their tasks and their events have no part in a line.** -/
theorem lineOf_own (ht : (tasks.map (·.id)).Nodup) (events : List Event) (d : Device) :
    lineOf (ownTasks tasks d) (ownEvents tasks events d) d = lineOf tasks events d := by
  rw [lineOf, ownOf_own ht, lineOf]

/-! ### The overview of one device -/

/-- The overview of one device is its line with the state of its run. -/
theorem overviewAlone_eq_ok_iff (ht : (tasks.map (·.id)).Nodup) :
    overviewAlone tasks events now d = .ok lines ↔
      lines.map (·.1) = [lineOf tasks events d] ∧
        ∀ l ∈ lines, DeviceState.ofRun l.1.run now = .ok l.2 := by
  rw [overviewAlone, overviewAt_join_eq_ok_iff (by simp), sortDevices, List.mergeSort_singleton,
    List.map_singleton, lineOf_own ht]

/-- A device alone has a line unless its latest run has started and has no end. -/
theorem exists_overviewAlone_eq_ok_iff (ht : (tasks.map (·.id)).Nodup) :
    (∃ line, overviewAlone tasks events now d = .ok [line]) ↔ EndsFit [d] tasks events now := by
  have hd : ([d].map (·.id)).Nodup := by simp
  rw [← exists_overviewAt_eq_ok_iff hd ht]
  simp only [overviewAt_join_eq_ok_iff hd, overviewAlone_eq_ok_iff ht, sortDevices,
    List.mergeSort_singleton, List.map_singleton]
  constructor
  · rintro ⟨line, h⟩
    exact ⟨[line], h⟩
  · rintro ⟨lines, hmap, hstates⟩
    obtain ⟨line, rfl, -⟩ := List.map_eq_singleton_iff.mp hmap
    exact ⟨line, hmap, hstates⟩

/-- No end of the overview is out of range exactly if that holds for each device. -/
theorem endsFit_iff_forall_singleton :
    EndsFit devices tasks events now ↔ ∀ d ∈ devices, EndsFit [d] tasks events now := by
  simp only [EndsFit, List.forall_mem_singleton]

/-! ### The overview of all devices -/

/-- Two lists agree on what they show, and the second one holds good, exactly if both can be said
element by element. -/
theorem map_eq_map_and_forall_iff_forall₂ {α β γ : Type} {f : α → γ} {g : β → γ} {p : β → Prop}
    {l : List α} {r : List β} :
    (r.map g = l.map f ∧ ∀ b ∈ r, p b) ↔ List.Forall₂ (fun a b => g b = f a ∧ p b) l r := by
  induction r generalizing l with
  | nil => cases l <;> simp
  | cons b r ih =>
    cases l with
    | nil => simp
    | cons a l =>
      rw [List.forall₂_cons, ← ih, List.map_cons, List.map_cons, List.cons.injEq,
        List.forall_mem_cons]
      tauto

/-- **An overview is made of the lines computed alone**, one for each device, by name. -/
theorem overviewAt_join_eq_ok_iff_alone (hd : (devices.map (·.id)).Nodup)
    (ht : (tasks.map (·.id)).Nodup) :
    overviewAt (join devices tasks events) now = .ok lines ↔
      List.Forall₂ (fun d line => overviewAlone tasks events now d = .ok [line])
        (sortDevices devices) lines := by
  rw [overviewAt_join_eq_ok_iff hd, map_eq_map_and_forall_iff_forall₂]
  simp only [overviewAlone_eq_ok_iff ht, List.map_singleton, List.cons.injEq, and_true,
    List.forall_mem_singleton]

end History

namespace Api

open History

variable {devices : List Device} {tasks : List Task} {events : List Event} {now : Instant}

/-- The answer to a request for the overview. -/
theorem respond_of_overview {σ : Type} (b : Backend σ) (s : σ) {r : Request}
    {histories : List DeviceTask} (hr : Endpoint.ofRequest? r = some .overview)
    (hserved : b.histories s = .ok histories) (now : Instant) :
    respond b now r s = (overviewReply now histories, s) := by
  simp only [respond, hr, hserved, fromHistories]

/-- A single device whose latest run has started and has no end prevents the answer. -/
theorem exists_respond_eq_error {σ : Type} (b : Backend σ) (s : σ) {r : Request} {d : Device}
    (hr : Endpoint.ofRequest? r = some .overview)
    (hserved : b.histories s = .ok (join devices tasks events))
    (hd : (devices.map (·.id)).Nodup) (ht : (tasks.map (·.id)).Nodup) (hdevice : d ∈ devices)
    (hnot : ¬ EndsFit [d] tasks events now) : ∃ e, respond b now r s = (.error e, s) := by
  rw [respond_of_overview b s hr hserved, overviewReply]
  cases hoverview : overviewAt (join devices tasks events) now with
  | error e => exact ⟨e, rfl⟩
  | ok lines =>
    have hall := (exists_overviewAt_eq_ok_iff hd ht).mp ⟨lines, hoverview⟩
    exact absurd (endsFit_iff_forall_singleton.mp hall d hdevice) hnot

/-- **When clients are answered with an overview, and with what.** A device alone has a line unless
its latest run has started and has no end. If every device has a line of its own, the answer
consists of these lines, by name of the devices, and they are read in the text of its body. If a
single device has none, there is no answer. -/
theorem respond_lines_alone {σ : Type} (b : Backend σ) (s : σ) {r : Request}
    (hr : Endpoint.ofRequest? r = some .overview)
    (hserved : b.histories s = .ok (join devices tasks events))
    (hd : (devices.map (·.id)).Nodup) (ht : (tasks.map (·.id)).Nodup) (now : Instant) :
    (∀ d ∈ devices, (∃ line, overviewAlone tasks events now d = .ok [line]) ↔
      EndsFit [d] tasks events now) ∧
    ((∀ d ∈ devices, EndsFit [d] tasks events now) → ∃ reply lines,
      respond b now r s = (.ok reply, s) ∧
      reply =
        .json 200 (Json.list (fun (line, state) => OverviewLine.toJson line state) lines) ∧
      reply.Tells (Json.list? SeenLine.ofJson?)
        (lines.map fun (line, state) => line.seen state) ∧
      List.Forall₂ (fun d line => overviewAlone tasks events now d = .ok [line])
        (sortDevices devices) lines) ∧
    (∀ d ∈ devices, ¬ EndsFit [d] tasks events now →
      ∃ e, respond b now r s = (.error e, s)) := by
  refine ⟨fun d _ => exists_overviewAlone_eq_ok_iff ht, fun hfit => ?_, fun d hdevice hnot =>
    exists_respond_eq_error b s hr hserved hd ht hdevice hnot⟩
  have hall := endsFit_iff_forall_singleton.mpr hfit
  obtain ⟨lines, hlines⟩ := (exists_overviewAt_eq_ok_iff hd ht).mpr hall
  refine ⟨_, lines, ?_, rfl, Reply.tells_overview lines,
    (overviewAt_join_eq_ok_iff_alone hd ht).mp hlines⟩
  rw [respond_of_overview b s hr hserved, overviewReply, hlines]
  rfl

/-! ### A washer beside a dryer without end -/

/-- A dryer. -/
def dryer : Device :=
  ⟨2, "Dryer", .zero⟩

/-- A run of the dryer that takes as long as can be said. -/
def endlessRun : Task × Event :=
  (⟨20, 2, ⟨.epoch, oneOClock⟩, 9223372036854775807⟩, ⟨200, 20, .epoch⟩)

/-- The short task of the washer and the one of the dryer. -/
def sharedTasks : List Task :=
  [shortRun.1, endlessRun.1]

/-- The washer starts at one, the dryer at midnight. -/
def sharedEvents : List Event :=
  [shortRun.2, endlessRun.2]

/-- A program that serves the washer and the dryer. -/
def sharedBackend : Backend Unit where
  histories _ := .ok (join [washer, dryer] sharedTasks sharedEvents)
  create _ s := (.error .notAuthenticated, s)
  alarms _ := .ok []

/-- The line of a device with one task. -/
theorem lineOf_of_ownOf_eq_singleton {d : Device} {t : Task} {e : Event}
    (h : ownOf tasks events d.id = [⟨t, some e⟩]) :
    lineOf tasks events d = ⟨d, some ⟨t, some e⟩⟩ := by
  rw [lineOf, h, sort, List.mergeSort_singleton]
  rfl

/-- The run of the dryer has started at midnight and has no end. -/
theorem not_endsFit_dryer : ¬ EndsFit [dryer] sharedTasks sharedEvents .epoch := by
  have ht : (sharedTasks.map (·.id)).Nodup := by decide
  have hline : lineOf sharedTasks sharedEvents dryer =
      ⟨dryer, some ⟨endlessRun.1, some endlessRun.2⟩⟩ :=
    lineOf_of_ownOf_eq_singleton (by decide)
  rw [← exists_overviewAlone_eq_ok_iff ht]
  rintro ⟨⟨line, state⟩, halone⟩
  obtain ⟨hmap, hstates⟩ := (overviewAlone_eq_ok_iff ht).mp halone
  obtain rfl : line = _ := (List.cons.inj hmap).1
  have hstate : DeviceState.ofRun (lineOf sharedTasks sharedEvents dryer).run .epoch = .ok state :=
    hstates _ (List.mem_singleton_self _)
  rw [hline] at hstate
  cases hstate

/-- **One device can prevent the lines of all.** The washer alone is scheduled at midnight. Beside
the dryer, whose run has no end, there is no answer. -/
theorem exists_line_alone_not_answered :
    (([washer, dryer].map (·.id)).Nodup ∧ (sharedTasks.map (·.id)).Nodup ∧
      (sharedEvents.map (·.id)).Nodup) ∧
    sharedBackend.histories () = .ok (join [washer, dryer] sharedTasks sharedEvents) ∧
    overviewAlone sharedTasks sharedEvents .epoch washer =
      .ok [(⟨washer, some ⟨shortRun.1, some shortRun.2⟩⟩, .scheduled)] ∧
    ∃ e, respond sharedBackend .epoch ⟨"GET", "/api/overview", none, ""⟩ () = (.error e, ()) := by
  have hd : ([washer, dryer].map (·.id)).Nodup := by decide
  have ht : (sharedTasks.map (·.id)).Nodup := by decide
  have hline : lineOf sharedTasks sharedEvents washer =
      ⟨washer, some ⟨shortRun.1, some shortRun.2⟩⟩ :=
    lineOf_of_ownOf_eq_singleton (by decide)
  refine ⟨⟨hd, ht, by decide⟩, rfl, ?_, ?_⟩
  · rw [overviewAlone_eq_ok_iff ht, hline, List.forall_mem_singleton]
    exact ⟨rfl, rfl⟩
  · exact exists_respond_eq_error sharedBackend () (Endpoint.ofRequest?_overview none "") rfl hd ht
      (by decide) not_endsFit_dryer

/-- What clients are told of the washer and the dryer at midnight. -/
theorem respond_lines_alone_washer :
    Endpoint.ofRequest? ⟨"GET", "/api/overview", none, ""⟩ = some .overview ∧
      sharedBackend.histories () = .ok (join [washer, dryer] sharedTasks sharedEvents) ∧
      ([washer, dryer].map (·.id)).Nodup ∧ (sharedTasks.map (·.id)).Nodup ∧
      (∀ d ∈ [washer, dryer], (∃ line,
        overviewAlone sharedTasks sharedEvents .epoch d = .ok [line]) ↔
          EndsFit [d] sharedTasks sharedEvents .epoch) ∧
      ((∀ d ∈ [washer, dryer], EndsFit [d] sharedTasks sharedEvents .epoch) → ∃ reply lines,
        respond sharedBackend .epoch ⟨"GET", "/api/overview", none, ""⟩ () = (.ok reply, ()) ∧
        reply =
          .json 200 (Json.list (fun (line, state) => OverviewLine.toJson line state) lines) ∧
        reply.Tells (Json.list? SeenLine.ofJson?)
          (lines.map fun (line, state) => line.seen state) ∧
        List.Forall₂ (fun d line => overviewAlone sharedTasks sharedEvents .epoch d = .ok [line])
          (sortDevices [washer, dryer]) lines) ∧
      (∀ d ∈ [washer, dryer], ¬ EndsFit [d] sharedTasks sharedEvents .epoch →
        ∃ e, respond sharedBackend .epoch ⟨"GET", "/api/overview", none, ""⟩ () = (.error e, ())) :=
  have hr := Endpoint.ofRequest?_overview none ""
  have hd : ([washer, dryer].map (·.id)).Nodup := by decide
  have ht : (sharedTasks.map (·.id)).Nodup := by decide
  ⟨hr, rfl, hd, ht, respond_lines_alone sharedBackend () hr rfl hd ht .epoch⟩

end Api

end Household
