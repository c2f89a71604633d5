import Household.Proofs.Alarm.Convergence
import Household.Proofs.Alarm.Simulation
import Mathlib.Data.List.Basic

/-!
# A Diff Carried Out One Write at a Time

A diff is made of any listed runs and any list of alarms, also when ids are repeated in them. What
it inserts and deletes is determined by the listed runs in their order, and what it leaves behind
does not depend on the order in which its alarms are written and deleted: no two writes of it are
about one id, but for alarms that are deleted twice. Afterwards there is nothing to change.

## Main results

* `Diff.isExact_reconcile`: what a diff inserts and deletes, in terms of the listed runs.
* `Diff.foldl_after_of_perm`: the order of the writes does not matter.
* `Diff.reconcile_settles`: any order of the writes leaves behind what the diff as a whole does, and
  nothing to change.
-/

namespace Household

/-! ### Listed runs -/

/-- An event of the listed runs has this id. -/
def ListsId (deviceTasks : List DeviceTask) (k : Int64) : Prop :=
  ∃ dt ∈ deviceTasks, ∃ te ∈ dt.taskEvents, ∃ e ∈ te.event, e.id = k

instance (deviceTasks : List DeviceTask) : DecidablePred (ListsId deviceTasks) :=
  fun _ => inferInstanceAs (Decidable (∃ _ ∈ _, _))

/-- The run is the first one listed of which the event has its id: neither the histories before its
own list that id, nor the runs before it in its own history. -/
structure IsFirst (deviceTasks : List DeviceTask) (d : Device) (t : Task) (e : Event) : Prop where
  exists_split : ∃ earlier before after later,
    deviceTasks = earlier ++ ⟨d, before ++ ⟨t, some e⟩ :: after⟩ :: later ∧
      ¬ ListsId earlier e.id ∧ ¬ ListsId [⟨d, before⟩] e.id

namespace Diff

variable {deviceTasks : List DeviceTask} {stored : List Alarm}

/-- The ids of the listed alarms are those of the events. -/
theorem mem_map_alarmsOf_iff {k : Int64} :
    k ∈ (alarmsOf deviceTasks).map (·.id) ↔ ListsId deviceTasks k := by
  simp only [List.mem_map, mem_alarmsOf_iff, ListsId]
  constructor
  · rintro ⟨_, ⟨d, t, e, ⟨dt, hdt, -, hte⟩, rfl⟩, rfl⟩
    exact ⟨dt, hdt, _, hte, e, rfl, rfl⟩
  · rintro ⟨dt, hdt, ⟨t, _⟩, hte, e, rfl, rfl⟩
    exact ⟨_, ⟨dt.device, t, e, ⟨dt, hdt, rfl, hte⟩, rfl⟩, rfl⟩

/-- The alarms of the runs of one device, in their order. -/
def alarmsOfRuns (d : Device) (runs : List TaskEvent) : List Alarm :=
  runs.filterMap fun te => te.event.map (Alarm.ofRun d te.task)

/-- No alarm of a device has an id that none of its events has. -/
theorem find?_alarmsOfRuns_eq_none_iff {d : Device} {runs : List TaskEvent} {k : Int64} :
    (alarmsOfRuns d runs).find? (·.id = k) = none ↔ ¬ ListsId [⟨d, runs⟩] k := by
  rw [← mem_map_alarmsOf_iff, Table.find?_eq_none_iff, alarmsOf, List.flatMap_singleton]
  rfl

/-- The first alarm of a device under an id is that of its first run with the id. -/
theorem find?_alarmsOfRuns_eq_some_iff {d : Device} {runs : List TaskEvent} {k : Int64}
    {a : Alarm} :
    (alarmsOfRuns d runs).find? (·.id = k) = some a ↔
      ∃ before t e after, runs = before ++ ⟨t, some e⟩ :: after ∧
        ¬ ListsId [⟨d, before⟩] k ∧ e.id = k ∧ a = .ofRun d t e := by
  rw [List.find?_eq_some_iff_append]
  constructor
  · rintro ⟨hid, as, bs, hsplit, has⟩
    obtain ⟨before, rest, rfl, rfl, hrest⟩ := List.filterMap_eq_append_iff.mp hsplit
    obtain ⟨skipped, ⟨t, event⟩, after, rfl, hskipped, hevent, -⟩ :=
      List.filterMap_eq_cons_iff.mp hrest
    obtain ⟨e, rfl, rfl⟩ := Option.map_eq_some_iff.mp hevent
    refine ⟨before ++ skipped, t, e, after, by simp, ?_, of_decide_eq_true hid, rfl⟩
    -- The runs between the alarms before this one and its own run have no events.
    have hnone : skipped.filterMap (fun te => te.event.map (Alarm.ofRun d te.task)) = [] :=
      List.filterMap_eq_nil_iff.mpr hskipped
    rw [← find?_alarmsOfRuns_eq_none_iff, alarmsOfRuns, List.filterMap_append, hnone,
      List.append_nil, List.find?_eq_none]
    exact fun b hb => by simpa using has b hb
  · rintro ⟨before, t, e, after, rfl, hbefore, rfl, rfl⟩
    rw [← find?_alarmsOfRuns_eq_none_iff, List.find?_eq_none] at hbefore
    refine ⟨decide_eq_true rfl, alarmsOfRuns d before, alarmsOfRuns d after, ?_,
      fun b hb => by simpa using hbefore b hb⟩
    rw [alarmsOfRuns, List.filterMap_append]
    rfl

/-- **The first alarm listed under an id is that of the first run with it.** -/
theorem find?_alarmsOf_eq_some_iff {k : Int64} {a : Alarm} :
    (alarmsOf deviceTasks).find? (·.id = k) = some a ↔
      ∃ d t e, IsFirst deviceTasks d t e ∧ e.id = k ∧ a = .ofRun d t e := by
  have hearlier {earlier : List DeviceTask} :
      (∀ dt ∈ earlier, (alarmsOfRuns dt.device dt.taskEvents).find? (·.id = k) = none) ↔
        ¬ ListsId earlier k := by
    simp only [find?_alarmsOfRuns_eq_none_iff]
    simp [ListsId]
  have hsplit : alarmsOf deviceTasks =
      deviceTasks.flatMap fun dt => alarmsOfRuns dt.device dt.taskEvents := rfl
  rw [hsplit, List.find?_flatMap, List.findSome?_eq_some_iff]
  simp only [hearlier, find?_alarmsOfRuns_eq_some_iff]
  constructor
  · rintro ⟨earlier, ⟨d, runs⟩, later, rfl, ⟨before, t, e, after, rfl, hbefore, rfl, rfl⟩, hnot⟩
    exact ⟨d, t, e, ⟨earlier, before, after, later, rfl, hnot, hbefore⟩, rfl, rfl⟩
  · rintro ⟨d, t, e, ⟨earlier, before, after, later, rfl, hnot, hbefore⟩, rfl, rfl⟩
    exact ⟨earlier, _, later, rfl, ⟨before, t, e, after, rfl, hbefore, rfl, rfl⟩, hnot⟩

/-! ### An exact diff -/

/-- The diff inserts and deletes just what is missing and what is left over, by ids. -/
structure IsExact (deviceTasks : List DeviceTask) (stored : List Alarm) (diff : Diff) : Prop where
  ascending : (diff.toInsert.map (·.id)).Pairwise (· < ·)
  mem_toInsert_iff : ∀ a, a ∈ diff.toInsert ↔
    a.id ∉ stored.map (·.id) ∧ ∃ d t e, IsFirst deviceTasks d t e ∧ a = .ofRun d t e
  toDelete_eq : diff.toDelete = stored.filter fun a => ¬ ListsId deviceTasks a.id
  id_ne : ∀ a ∈ diff.toInsert, ∀ b ∈ diff.toDelete, a.id ≠ b.id
  isEmpty_iff : diff.isEmpty = true ↔ ∀ k, k ∈ stored.map (·.id) ↔ ListsId deviceTasks k

/-- **What is inserted and deleted is just what is missing and what is left over.** -/
theorem isExact_reconcile (deviceTasks : List DeviceTask) (stored : List Alarm) :
    (reconcile deviceTasks stored).IsExact deviceTasks stored where
  ascending := pairwise_toInsert
  mem_toInsert_iff a := by
    rw [Diff.mem_toInsert_iff, find?_alarmsOf_eq_some_iff, and_comm]
    refine and_congr_right fun _ => ⟨?_, ?_⟩
    · rintro ⟨d, t, e, hfirst, -, rfl⟩
      exact ⟨d, t, e, hfirst, rfl⟩
    · rintro ⟨d, t, e, hfirst, rfl⟩
      exact ⟨d, t, e, hfirst, rfl, rfl⟩
  toDelete_eq := by
    rw [reconcile_toDelete]
    refine List.filter_congr fun a _ => ?_
    have hlisted : (live (alarmsOf deviceTasks)).contains a.id =
        decide (ListsId deviceTasks a.id) := by
      rw [Bool.eq_iff_iff, contains_live_iff, mem_map_alarmsOf_iff, decide_eq_true_iff]
    rw [hlisted, decide_not]
  id_ne _ ha _ hb := id_ne_of_mem ha hb
  isEmpty_iff := by
    rw [isEmpty_reconcile_iff]
    simp only [mem_map_alarmsOf_iff]

end Diff

/-! ### Writes in any order -/

namespace Table

variable {α : Type} {k k' : Int64}

/-- Two keys are written in any order. -/
theorem insert_comm (h : k ≠ k') (t : Table α) (a b : α) :
    (t.insert k a).insert k' b = (t.insert k' b).insert k a := by
  refine ext_get? fun i => ?_
  simp only [get?_insert]
  by_cases hk : k = i <;> by_cases hk' : k' = i <;> simp_all

/-- One key is written and another one is erased in any order. -/
theorem insert_erase_comm (h : k ≠ k') (t : Table α) (a : α) :
    (t.insert k a).erase k' = (t.erase k').insert k a := by
  refine ext_get? fun i => ?_
  simp only [get?_insert, get?_erase]
  by_cases hk : k = i <;> by_cases hk' : k' = i <;> simp_all

/-- Two keys are erased in any order, also if they are the same. -/
theorem erase_comm (t : Table α) (k k' : Int64) :
    (t.erase k).erase k' = (t.erase k').erase k := by
  refine ext_get? fun i => ?_
  simp only [get?_erase]
  split <;> split <;> rfl

end Table

/-- The diff that does just what the operation does. -/
def Operation.diff : Operation → Diff
  | .insert a => ⟨[a], []⟩
  | .delete a => ⟨[], [a]⟩
  | .apply d => d

/-- The single writes of a diff. -/
def Diff.operations (d : Diff) : List Operation :=
  d.toInsert.map .insert ++ d.toDelete.map .delete

/-- The single writes are the insertions and the deletions. -/
theorem Diff.mem_operations_iff {d : Diff} {o : Operation} :
    o ∈ d.operations ↔ (∃ a ∈ d.toInsert, o = .insert a) ∨ ∃ a ∈ d.toDelete, o = .delete a := by
  simp [operations, eq_comm]

namespace Store

/-- The store after an operation of which nothing was refused. -/
def after (s : Store) (o : Operation) : Store :=
  s.written o.diff

/-- Two alarms are inserted in any order, if they have different ids. -/
theorem after_insert_comm (s : Store) {a b : Alarm} (h : a.id ≠ b.id) :
    (s.after (.insert a)).after (.insert b) = (s.after (.insert b)).after (.insert a) := by
  cases s with
  | memory alarms => exact congrArg memory (Table.insert_comm h alarms a b)
  | database db =>
    exact congrArg (fun rows => database { db with rows })
      (Table.insert_comm h db.rows a.toRow b.toRow)

/-- One alarm is inserted and another one is deleted in any order, if they have different ids. -/
theorem after_insert_delete_comm (s : Store) {a b : Alarm} (h : a.id ≠ b.id) :
    (s.after (.insert a)).after (.delete b) = (s.after (.delete b)).after (.insert a) := by
  cases s with
  | memory alarms => exact congrArg memory (Table.insert_erase_comm h alarms a)
  | database db =>
    exact congrArg (fun rows => database { db with rows })
      (Table.insert_erase_comm h db.rows a.toRow)

/-- Two alarms are deleted in any order. -/
theorem after_delete_comm (s : Store) (a b : Alarm) :
    (s.after (.delete a)).after (.delete b) = (s.after (.delete b)).after (.delete a) := by
  cases s with
  | memory alarms => exact congrArg memory (Table.erase_comm alarms a.id b.id)
  | database db =>
    exact congrArg (fun rows => database { db with rows }) (Table.erase_comm db.rows a.id b.id)

/-- The single writes of a diff, the insertions first, leave behind what the diff does. -/
theorem foldl_after_operations (s : Store) (d : Diff) :
    d.operations.foldl after s = s.written d := by
  cases s with
  | memory alarms =>
    have hone : ∀ t o, (memory t).after o = memory (o.onTable t) := by
      intro t o
      cases o <;> rfl
    rw [List.foldl_hom memory hone, Diff.operations, List.foldl_append, List.foldl_map,
      List.foldl_map]
    rfl
  | database db =>
    have hone : ∀ rows o, (database { db with rows }).after o =
        database { db with rows := o.diff.statements.foldl Statement.write rows } :=
      fun _ _ => rfl
    refine (List.foldl_hom (fun rows => database { db with rows }) hone).trans ?_
    rw [Diff.operations, List.foldl_append, List.foldl_map, List.foldl_map, written,
      Diff.foldl_write_statements, List.foldl_map]
    rfl

/-! ### Stores that refuse nothing -/

/-- The store refuses nothing. -/
def IsWilling : Store → Prop
  | .memory _ => True
  | .database db => db.outage? = none ∧ db.refusedWrites = [] ∧ db.refusedDeletes = []

/-- A store that refuses nothing does every diff. -/
theorem apply_of_isWilling {s : Store} (h : s.IsWilling) (d : Diff) :
    s.apply d = .ok (s.written d) := by
  cases s with
  | memory alarms => rfl
  | database db =>
    obtain ⟨rows, outage?, refusedWrites, refusedDeletes⟩ := db
    obtain ⟨rfl, rfl, rfl⟩ := h
    have hrun := Database.run?_of_willing rows d.statements
    simp only [Database.empty] at hrun
    rw [apply, commit, hrun]
    rfl

/-- After a diff the store still refuses nothing. -/
theorem IsWilling.written {s : Store} (h : s.IsWilling) (d : Diff) : (s.written d).IsWilling := by
  cases s <;> exact h

/-- An operation is done as its diff is. -/
theorem perform_eq_apply (s : Store) (o : Operation) : s.perform o = s.apply o.diff := by
  cases s <;> cases o <;> rfl

/-- A store that refuses nothing does all operations. -/
theorem performAll_of_isWilling {s : Store} (h : s.IsWilling) (ops : List Operation) :
    s.performAll ops = .ok (ops.foldl after s) := by
  induction ops generalizing s with
  | nil => rfl
  | cons o ops ih =>
    rw [performAll, List.foldlM_cons, perform_eq_apply, apply_of_isWilling h]
    exact ih (h.written o.diff)

/-- A store that refuses nothing can be read. -/
theorem IsWilling.all_eq {s : Store} (h : s.IsWilling) : s.all = .ok s.alarms.values := by
  refine all_eq_ok_iff.mpr ⟨?_, rfl⟩
  cases s with
  | memory alarms => trivial
  | database db => exact h.1

end Store

namespace Diff

variable {deviceTasks : List DeviceTask} {stored : List Alarm}

/-- Two of the single writes of a diff are done in any order: no two of them are about one id, but
for deletions. -/
theorem after_comm {o o' : Operation} (ho : o ∈ (reconcile deviceTasks stored).operations)
    (ho' : o' ∈ (reconcile deviceTasks stored).operations) (s : Store) :
    (s.after o).after o' = (s.after o').after o := by
  rcases mem_operations_iff.mp ho with ⟨a, ha, rfl⟩ | ⟨a, ha, rfl⟩ <;>
    rcases mem_operations_iff.mp ho' with ⟨b, hb, rfl⟩ | ⟨b, hb, rfl⟩
  · by_cases hid : a.id = b.id
    · obtain rfl : a = b :=
        List.inj_on_of_nodup_map (Table.nodup_of_pairwise_lt pairwise_toInsert) ha hb hid
      rfl
    · exact s.after_insert_comm hid
  · exact s.after_insert_delete_comm (id_ne_of_mem ha hb)
  · exact (s.after_insert_delete_comm (id_ne_of_mem hb ha)).symm
  · exact s.after_delete_comm a b

/-- **The order of the single writes does not matter.** -/
theorem foldl_after_of_perm {ops : List Operation}
    (h : ops.Perm (reconcile deviceTasks stored).operations) (s : Store) :
    ops.foldl Store.after s = s.written (reconcile deviceTasks stored) := by
  rw [← Store.foldl_after_operations]
  exact h.foldl_eq' (fun o ho o' ho' s => after_comm (h.mem_iff.mp ho) (h.mem_iff.mp ho') s) s

/-- **A diff is exact, and it settles a store in any order.** What it inserts and deletes is just
what is missing and what is left over. A store that refuses nothing is left the same by the diff as
by its single writes in any order; and if its ids were those of the list that the diff was made of,
there is then nothing to change. -/
theorem reconcile_settles (deviceTasks : List DeviceTask) (stored : List Alarm) :
    (reconcile deviceTasks stored).IsExact deviceTasks stored ∧
      ∀ s : Store, s.IsWilling → ∃ s', s.apply (reconcile deviceTasks stored) = .ok s' ∧
        (∀ ops, ops.Perm (reconcile deviceTasks stored).operations → s.performAll ops = .ok s') ∧
        ∀ before, s.Keyed → s.all = .ok before →
          (∀ k, k ∈ before.map (·.id) ↔ k ∈ stored.map (·.id)) →
            ∃ after, s'.all = .ok after ∧ (reconcile deviceTasks after).isEmpty = true := by
  refine ⟨isExact_reconcile deviceTasks stored, fun s hwilling =>
    ⟨_, Store.apply_of_isWilling hwilling _, fun ops hops => ?_, fun before hk hbefore hids => ?_⟩⟩
  · rw [Store.performAll_of_isWilling hwilling, foldl_after_of_perm hops]
  · rw [← (Store.all_eq_ok_iff.mp hbefore).2] at hids
    refine ⟨_, (hwilling.written _).all_eq, isEmpty_reconcile_iff.mpr fun k => ?_⟩
    exact Store.mem_map_values_written_iff_of_ids hk hids

/-! ### An id that is listed twice -/

/-- The listed runs of a washer and a dryer, both with an event of the id 105. -/
def twiceListed : List DeviceTask :=
  [⟨⟨1, "Washer", .zero⟩, [⟨⟨10, 1, ⟨.epoch, Pass.noon⟩, 300000⟩, some ⟨105, 10, Pass.noon⟩⟩]⟩,
    ⟨⟨2, "Dryer", .zero⟩, [⟨⟨20, 2, ⟨.epoch, Pass.noon⟩, 60000⟩, some ⟨105, 20, .epoch⟩⟩,
      ⟨⟨21, 2, ⟨.epoch, Pass.noon⟩, 60000⟩, some ⟨9, 21, Pass.noon⟩⟩]⟩]

/-- An alarm that no event is left for. -/
def leftOver : Alarm :=
  ⟨7, "Washer", .epoch, 300000⟩

/-- The alarm of the washer's run and one of the dryer's are inserted, after an alarm that is left
over is deleted twice. -/
theorem reconcile_settles_twiceListed :
    (Store.memory (Table.empty.insert 7 leftOver)).IsWilling ∧
      (Store.memory (Table.empty.insert 7 leftOver)).Keyed ∧
      (Store.memory (Table.empty.insert 7 leftOver)).all = .ok [leftOver] ∧
      (∀ k, k ∈ [leftOver].map (·.id) ↔ k ∈ [leftOver, leftOver].map (·.id)) ∧
      ∃ s' after,
        (Store.memory (Table.empty.insert 7 leftOver)).performAll
          [.delete leftOver, .delete leftOver, .insert ⟨105, "Washer", Pass.noon, 300000⟩,
            .insert ⟨9, "Dryer", Pass.noon, 60000⟩] = .ok s' ∧
        s'.all = .ok after ∧ (reconcile twiceListed after).isEmpty = true := by
  have hids (k : Int64) : k ∈ [leftOver].map (·.id) ↔ k ∈ [leftOver, leftOver].map (·.id) := by simp
  have hkeyed : Table.Keyed Alarm.id (Table.empty.insert 7 leftOver) :=
    Table.Keyed.empty.insert leftOver
  obtain ⟨s', -, hany, hafter⟩ := (reconcile_settles twiceListed [leftOver, leftOver]).2
    (.memory (Table.empty.insert 7 leftOver)) trivial
  obtain ⟨after, hall, hempty⟩ := hafter [leftOver] hkeyed rfl hids
  exact ⟨trivial, hkeyed, rfl, hids, s', after,
    hany (reconcile twiceListed [leftOver, leftOver]).operations.reverse (List.reverse_perm _),
    hall, hempty⟩

end Diff

end Household
