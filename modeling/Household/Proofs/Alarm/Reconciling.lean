import Household.Alarm.Diff
import Household.Proofs.Table

/-!
# The Diff as Two Sets of Ids

A diff is decided by ids alone. What is inserted are the first alarms, in the order of the listed
runs, of the ids that are not stored; what is deleted are the stored alarms of the ids that are not
listed.

## Main results

* `mem_toInsert_iff`, `mem_toDelete_iff`: what is inserted and what is deleted.
* `pairwise_toInsert`: what is inserted comes by strictly ascending id.
* `id_ne_of_mem`: no id is both inserted and deleted.
* `isEmpty_reconcile_iff`: nothing is to change when the listed ids are the stored ids.
-/

namespace Household.Diff

/-! ### The listed alarms -/

/-- The listed alarms are those of the runs in the histories. -/
theorem mem_alarmsOf_iff {deviceTasks : List DeviceTask} {a : Alarm} :
    a ∈ alarmsOf deviceTasks ↔
      ∃ d t e, (∃ dt ∈ deviceTasks, dt.device = d ∧ ⟨t, some e⟩ ∈ dt.taskEvents) ∧
        a = Alarm.ofRun d t e := by
  simp only [alarmsOf, List.mem_flatMap, List.mem_filterMap, Option.map_eq_some_iff]
  constructor
  · rintro ⟨dt, hdt, ⟨t, _⟩, hte, e, rfl, rfl⟩
    exact ⟨dt.device, t, e, ⟨dt, hdt, rfl, hte⟩, rfl⟩
  · rintro ⟨_, t, e, ⟨dt, hdt, rfl, hte⟩, rfl⟩
    exact ⟨dt, hdt, _, hte, e, rfl, rfl⟩

/-- Of several alarms with one id the first counts. -/
theorem get?_foldl_addFirst (alarms : List Alarm) (t : Table Alarm) (k : Int64) :
    (alarms.foldl addFirst t).get? k = (t.get? k).or (alarms.find? (·.id = k)) := by
  induction alarms generalizing t with
  | nil => simp
  | cons a alarms ih =>
    rw [List.foldl_cons, ih, addFirst]
    by_cases hk : a.id = k
    · subst hk
      cases h : t.get? a.id with
      | none => simp [Table.contains, h]
      | some b => simp [Table.contains, h]
    · split <;> simp [hk]

/-- A key of the listed alarms leads to the first alarm with that id. -/
theorem get?_live (alarms : List Alarm) (k : Int64) :
    (live alarms).get? k = alarms.find? (·.id = k) := by
  rw [live, get?_foldl_addFirst, Table.get?_empty, Option.none_or]

/-- The listed alarms are kept under their ids. -/
theorem keyed_live (alarms : List Alarm) : (live alarms).Keyed (·.id) := by
  intro k a h
  rw [get?_live] at h
  simpa using List.find?_some h

/-- An id is listed when there is an alarm with it. -/
theorem contains_live_iff (alarms : List Alarm) (k : Int64) :
    (live alarms).contains k = true ↔ k ∈ alarms.map (·.id) := by
  rw [Table.contains, get?_live, List.find?_isSome]
  simp

/-! ### What is inserted and what is deleted -/

variable {deviceTasks : List DeviceTask} {stored : List Alarm}

/-- What is inserted are the first alarms of the listed ids that are not stored. -/
theorem mem_toInsert_iff {a : Alarm} :
    a ∈ (reconcile deviceTasks stored).toInsert ↔
      (alarmsOf deviceTasks).find? (·.id = a.id) = some a ∧ a.id ∉ stored.map (·.id) := by
  simp only [reconcile, List.mem_filter, (keyed_live _).mem_values_iff, get?_live,
    Bool.not_eq_true', List.contains_eq_mem, decide_eq_false_iff_not]

/-- What is deleted are the stored alarms whose ids are not listed. -/
theorem mem_toDelete_iff {a : Alarm} :
    a ∈ (reconcile deviceTasks stored).toDelete ↔
      a ∈ stored ∧ a.id ∉ (alarmsOf deviceTasks).map (·.id) := by
  simp only [reconcile, List.mem_filter, Bool.not_eq_true', ← Bool.not_eq_true, contains_live_iff]

/-- What is inserted comes by strictly ascending id. -/
theorem pairwise_toInsert :
    ((reconcile deviceTasks stored).toInsert.map (·.id)).Pairwise (· < ·) :=
  (keyed_live _).pairwise_values.sublist (List.filter_sublist.map _)

/-- What is inserted is listed. -/
theorem mem_alarmsOf_of_mem_toInsert {a : Alarm}
    (h : a ∈ (reconcile deviceTasks stored).toInsert) : a ∈ alarmsOf deviceTasks :=
  List.mem_of_find?_eq_some (mem_toInsert_iff.mp h).1

/-- The inserted ids are the listed ones that are not stored. -/
theorem mem_map_toInsert_iff {k : Int64} :
    k ∈ (reconcile deviceTasks stored).toInsert.map (·.id) ↔
      k ∈ (alarmsOf deviceTasks).map (·.id) ∧ k ∉ stored.map (·.id) := by
  constructor
  · intro h
    obtain ⟨a, ha, rfl⟩ := List.mem_map.mp h
    exact ⟨List.mem_map_of_mem (mem_alarmsOf_of_mem_toInsert ha), (mem_toInsert_iff.mp ha).2⟩
  · rintro ⟨hl, hs⟩
    obtain ⟨a, ha⟩ := (Table.contains_iff _ _).mp ((contains_live_iff _ _).mpr hl)
    obtain rfl : a.id = k := keyed_live _ _ _ ha
    rw [get?_live] at ha
    exact List.mem_map_of_mem (mem_toInsert_iff.mpr ⟨ha, hs⟩)

/-- The deleted ids are the stored ones that are not listed. -/
theorem mem_map_toDelete_iff {k : Int64} :
    k ∈ (reconcile deviceTasks stored).toDelete.map (·.id) ↔
      k ∈ stored.map (·.id) ∧ k ∉ (alarmsOf deviceTasks).map (·.id) := by
  simp only [List.mem_map (f := fun a : Alarm => a.id), mem_toDelete_iff]
  constructor
  · rintro ⟨a, ⟨hs, hl⟩, rfl⟩
    exact ⟨⟨a, hs, rfl⟩, hl⟩
  · rintro ⟨⟨a, hs, rfl⟩, hl⟩
    exact ⟨a, ⟨hs, hl⟩, rfl⟩

/-- No id is both inserted and deleted. -/
theorem id_ne_of_mem {a b : Alarm} (ha : a ∈ (reconcile deviceTasks stored).toInsert)
    (hb : b ∈ (reconcile deviceTasks stored).toDelete) : a.id ≠ b.id := by
  intro h
  exact (mem_toInsert_iff.mp ha).2 (List.mem_map.mpr ⟨b, (mem_toDelete_iff.mp hb).1, h.symm⟩)

/-- An id that is inserted is not deleted. -/
theorem not_mem_map_toDelete {a : Alarm} (ha : a ∈ (reconcile deviceTasks stored).toInsert) :
    a.id ∉ (reconcile deviceTasks stored).toDelete.map (·.id) := by
  intro hdel
  obtain ⟨b, hb, hid⟩ := List.mem_map.mp hdel
  exact id_ne_of_mem ha hb hid.symm

/-- No id is inserted twice, so that the last alarm inserted under an id is the only one. -/
theorem find?_reverse_toInsert_eq_some {a : Alarm}
    (ha : a ∈ (reconcile deviceTasks stored).toInsert) :
    (reconcile deviceTasks stored).toInsert.reverse.find? (·.id = a.id) = some a := by
  have hnodup : ((reconcile deviceTasks stored).toInsert.reverse.map (·.id)).Nodup := by
    rw [List.map_reverse, List.nodup_reverse]
    exact Table.nodup_of_pairwise_lt pairwise_toInsert
  exact (Table.find?_eq_some_iff_of_nodup hnodup).mpr ⟨List.mem_reverse.mpr ha, rfl⟩

/-- Nothing is inserted under the other ids. -/
theorem find?_reverse_toInsert_eq_none {k : Int64}
    (h : k ∉ (reconcile deviceTasks stored).toInsert.map (·.id)) :
    (reconcile deviceTasks stored).toInsert.reverse.find? (·.id = k) = none := by
  rw [Table.find?_eq_none_iff, List.map_reverse, List.mem_reverse]
  exact h

/-- **Nothing is to change when the listed ids are the stored ids.** -/
theorem isEmpty_reconcile_iff :
    (reconcile deviceTasks stored).isEmpty = true ↔
      ∀ k, k ∈ stored.map (·.id) ↔ k ∈ (alarmsOf deviceTasks).map (·.id) := by
  have hnil : ∀ l : List Alarm, l = [] ↔ ∀ k, k ∉ l.map (·.id) := by
    intro l
    rw [← List.eq_nil_iff_forall_not_mem, List.map_eq_nil_iff]
  rw [isEmpty_iff, hnil, hnil]
  simp only [mem_map_toInsert_iff, mem_map_toDelete_iff]
  constructor
  · rintro ⟨hi, hd⟩ k
    have hik := hi k
    have hdk := hd k
    tauto
  · intro h
    refine ⟨fun k => ?_, fun k => ?_⟩ <;> rw [h k] <;> tauto

end Household.Diff
