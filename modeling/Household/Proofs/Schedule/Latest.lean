import Household.Proofs.Schedule.Joining
import Household.Schedule.Overview

/-!
# The Run of a Device That Starts Last

A line of the overview shows the first run of a sorted history. When no device id and no task id is
repeated, this can be said of the listed tasks themselves: it is the run that starts last, and of
those that start together the one whose task is listed first.

## Main results

* `exists_split_of_find?_sort`: the first run of a sorted history starts after all listed before it,
  and not before those listed after it.
* `run_eq_none_iff`, `run_eq_some_iff`: what a line of the overview shows.
-/

namespace Household.History

variable {devices : List Device} {tasks : List Task} {events : List Event} {d : Device}
  {t u : Task} {e f : Event}

/-! ### Histories without repeated ids -/

/-- When no task id is repeated, each task carries the event picked for it. -/
theorem ownOf_eq_map (ht : (tasks.map (·.id)).Nodup) (events : List Event) (deviceId : Int64) :
    ownOf tasks events deviceId =
      (tasks.filter (·.deviceId = deviceId)).map fun t => ⟨t, picked? events t.id⟩ := by
  rw [ownOf, ← attach_eventsByTask, attach_eq_map ht, List.filter_map]
  simp only [get?_eventsByTask]
  rfl

/-- When no device id is repeated, each device has its own tasks. -/
theorem join_eq_map (hd : (devices.map (·.id)).Nodup) (tasks : List Task) (events : List Event) :
    join devices tasks events =
      (sortDevices devices).map fun d => ⟨d, sort (ownOf tasks events d.id)⟩ := by
  have hperm : (sortDevices devices).Perm devices := (isStableSort_sortDevices devices).perm
  have hsorted : ((sortDevices devices).map (·.id)).Nodup := (hperm.map _).nodup_iff.mpr hd
  simp only [join, collect_eq_map hsorted, getD_get?_byDevice, attach_eventsByTask, ownOf]

/-! ### The first run of a sorted history -/

/-- **The first run of a sorted history** starts after all runs listed before it, and no earlier
than those listed after it. -/
theorem exists_split_of_find?_sort {own : List TaskEvent} {te : TaskEvent}
    (h : (sort own).find? (·.event.isSome) = some te) :
    ∃ before after e, own = before ++ te :: after ∧ te.event = some e ∧
      (∀ b ∈ before, ∀ f ∈ b.event, f.start < e.start) ∧
        ∀ b ∈ after, ∀ f ∈ b.event, f.start ≤ e.start := by
  obtain ⟨hsome, front, rest, hsorted, hnone⟩ := List.find?_eq_some_iff_append.mp h
  obtain ⟨e, he⟩ := Option.isSome_iff_exists.mp hsome
  have hstable := isStableSort_sort own
  rw [hsorted] at hstable
  -- What comes before a run in the order has an event, too; so the run found is the very first.
  obtain rfl : front = [] := by
    refine List.eq_nil_iff_forall_not_mem.mpr fun b hb => ?_
    have hprecedes : b.Precedes te :=
      (List.pairwise_append.mp hstable.pairwise).2.2 b hb te List.mem_cons_self
    obtain ⟨g, hg, -⟩ := hprecedes e he
    have := hnone b hb
    simp [Option.mem_def.mp hg] at this
  obtain ⟨before, after, hown, hbefore, hafter⟩ := hstable.exists_split TaskEvent.precedes_refl
  have hstart : ∀ b : TaskEvent, te.Precedes b → ∀ f ∈ b.event, f.start ≤ e.start := by
    intro b hb f hf
    obtain ⟨e', he', hle⟩ := hb f hf
    obtain rfl := Option.some.inj (he.symm.trans he')
    exact hle
  refine ⟨before, after, e, hown, he, fun b hb f hf => ?_, fun b hb => hstart b (hafter b hb)⟩
  obtain ⟨hprecedes, hnot⟩ := hbefore b hb
  refine lt_of_le_of_ne (hstart b hprecedes f hf) fun heq => hnot fun e' he' => ⟨f, hf, ?_⟩
  obtain rfl := Option.some.inj (he.symm.trans he')
  exact heq.ge

/-- No run is found in a history without one. -/
theorem find?_sort_eq_none_iff {own : List TaskEvent} :
    (sort own).find? (·.event.isSome) = none ↔ ∀ te ∈ own, te.event = none := by
  have hperm := (isStableSort_sort own).perm
  rw [List.find?_eq_none]
  simp only [hperm.mem_iff, Bool.not_eq_true, Option.isSome_eq_false_iff, Option.isNone_iff_eq_none]

/-! ### The runs of a device -/

/-- The event is attached to a task of the device: it is the one picked for the task. -/
structure IsAttached (tasks : List Task) (events : List Event) (d : Device) (t : Task)
    (e : Event) : Prop where
  task_mem : t ∈ tasks
  device_id : t.deviceId = d.id
  picked : picked? events t.id = some e

/-- The run of the device that starts last; of those that start together, the one whose task is
listed first. -/
structure IsLatest (tasks : List Task) (events : List Event) (d : Device) (t : Task)
    (e : Event) : Prop extends IsAttached tasks events d t e where
  listed : ∃ earlier later, tasks = earlier ++ t :: later ∧
    (∀ u f, IsAttached earlier events d u f → f.start < e.start) ∧
      ∀ u f, IsAttached later events d u f → f.start ≤ e.start

/-- No run of the device starts after the latest one. -/
theorem IsLatest.start_le (h : IsLatest tasks events d t e) (hu : IsAttached tasks events d u f) :
    f.start ≤ e.start := by
  obtain ⟨⟨-, -, he⟩, earlier, later, rfl, hearlier, hlater⟩ := h
  obtain ⟨hmem, hdevice, hf⟩ := hu
  rcases List.mem_append.mp hmem with hmem | hmem
  · exact (hearlier u f ⟨hmem, hdevice, hf⟩).le
  · rcases List.mem_cons.mp hmem with rfl | hmem
    · rw [Option.some.inj (he.symm.trans hf)]
    · exact hlater u f ⟨hmem, hdevice, hf⟩

/-- Two elements of a list are the same, or one of them comes before the other. -/
theorem eq_or_mem_of_append_cons_eq {α : Type} {a b : α} {l l' r r' : List α}
    (h : l ++ a :: r = l' ++ b :: r') : a = b ∨ (a ∈ l' ∧ b ∈ r) ∨ (b ∈ l ∧ a ∈ r') := by
  rcases List.append_eq_append_iff.mp h with ⟨m, rfl, hm⟩ | ⟨m, rfl, hm⟩
  · cases m with
    | nil => exact .inl (List.cons.inj hm).1
    | cons c m =>
      obtain ⟨rfl, rfl⟩ := List.cons.inj hm
      exact .inr (.inl (by simp))
  · cases m with
    | nil => exact .inl (List.cons.inj hm).1.symm
    | cons c m =>
      obtain ⟨rfl, rfl⟩ := List.cons.inj hm
      exact .inr (.inr (by simp))

/-- A device has one latest run only. -/
theorem IsLatest.unique (h : IsLatest tasks events d t e) (h' : IsLatest tasks events d u f) :
    t = u ∧ e = f := by
  obtain ⟨⟨-, ht, he⟩, earlier, later, rfl, hearlier, hlater⟩ := h
  obtain ⟨⟨-, hu, hf⟩, earlier', later', htasks, hearlier', hlater'⟩ := h'
  rcases eq_or_mem_of_append_cons_eq htasks with rfl | ⟨htm, hum⟩ | ⟨hum, htm⟩
  · exact ⟨rfl, Option.some.inj (he.symm.trans hf)⟩
  · exact absurd (hearlier' t e ⟨htm, ht, he⟩) (hlater u f ⟨hum, hu, hf⟩).not_gt
  · exact absurd (hearlier u f ⟨hum, hu, hf⟩) (hlater' t e ⟨htm, ht, he⟩).not_gt

/-! ### What a line of the overview shows -/

/-- The line of a device with its own tasks. -/
def lineOf (tasks : List Task) (events : List Event) (d : Device) : OverviewLine :=
  DeviceTask.overviewLine ⟨d, sort (ownOf tasks events d.id)⟩

/-- A line shows no run exactly if no event is attached to a task of the device. -/
theorem run_eq_none_iff (ht : (tasks.map (·.id)).Nodup) :
    (lineOf tasks events d).run = none ↔ ∀ t e, ¬ IsAttached tasks events d t e := by
  have hown : (lineOf tasks events d).run = none ↔
      ∀ te ∈ ownOf tasks events d.id, te.event = none := find?_sort_eq_none_iff
  rw [hown, ownOf_eq_map ht]
  simp only [List.forall_mem_map, List.mem_filter, decide_eq_true_eq, and_imp]
  constructor
  · rintro h t e ⟨hmem, hdevice, hpicked⟩
    exact absurd (hpicked.symm.trans (h t hmem hdevice)) (by simp)
  · intro h t hmem hdevice
    exact Option.eq_none_iff_forall_ne_some.mpr fun e he => h t e ⟨hmem, hdevice, he⟩

/-- The run that a line shows is the latest one of the device. -/
theorem isLatest_of_run_eq_some (ht : (tasks.map (·.id)).Nodup) {te : TaskEvent}
    (h : (lineOf tasks events d).run = some te) :
    ∃ e, te.event = some e ∧ IsLatest tasks events d te.task e := by
  obtain ⟨before, after, e, hown, he, hbefore, hafter⟩ := exists_split_of_find?_sort h
  refine ⟨e, he, ?_⟩
  -- The history is taken from the listed tasks, so that its parts are taken from parts of these.
  rw [ownOf_eq_map ht, List.map_eq_append_iff] at hown
  obtain ⟨l, r, hfilter, rfl, hr⟩ := hown
  obtain ⟨t, r, rfl, rfl, rfl⟩ := List.map_eq_cons_iff.mp hr
  obtain ⟨l', r', rfl, rfl, hr'⟩ := List.filter_eq_append_iff.mp hfilter
  obtain ⟨m, r', rfl, hm, hdevice, rfl⟩ := List.filter_eq_cons_iff.mp hr'
  rw [decide_eq_true_eq] at hdevice
  simp only [List.forall_mem_map, List.mem_filter, decide_eq_true_eq, and_imp] at hbefore hafter hm
  refine ⟨⟨by simp, hdevice, he⟩, l' ++ m, r', by simp, ?_, ?_⟩
  · rintro u f ⟨hmem, hu, hf⟩
    rcases List.mem_append.mp hmem with hmem | hmem
    · exact hbefore u hmem hu f hf
    · exact absurd hu (hm u hmem)
  · rintro u f ⟨hmem, hu, hf⟩
    exact hafter u hmem hu f hf

/-- **A line shows the latest run of the device.** -/
theorem run_eq_some_iff (ht : (tasks.map (·.id)).Nodup) {te : TaskEvent} :
    (lineOf tasks events d).run = some te ↔
      ∃ e, te.event = some e ∧ IsLatest tasks events d te.task e := by
  refine ⟨isLatest_of_run_eq_some ht, ?_⟩
  rintro ⟨e, he, hlatest⟩
  cases hrun : (lineOf tasks events d).run with
  | none => exact absurd hlatest.toIsAttached ((run_eq_none_iff ht).mp hrun _ _)
  | some te' =>
    obtain ⟨e', he', hlatest'⟩ := isLatest_of_run_eq_some ht hrun
    obtain ⟨htask, rfl⟩ := hlatest'.unique hlatest
    rw [Option.some.injEq, TaskEvent.mk.injEq]
    exact ⟨htask, he'.trans he.symm⟩

end Household.History
