import Household.Proofs.Overlap.Deeds

/-!
# Table and Timers After Overlapping Passes

A pass commits its diff first and tells the scheduler afterwards. When one pass inserts an alarm and
another one deletes it, their commits and their commands may come in different orders: what the
scheduler is told last is then the opposite of what is stored. An alarm that is stored without a
timer is never made up for, since later passes look at the table only. This is the only way in which
passes that overlap can get table and timers out of line.

## Main results

* `Overlap.isTimedBy_run_iff`: table and timers stay in line exactly if under each id that is
  inserted and deleted the last command agrees with the last commit.
* `Overlap.not_isTimedBy_washer`: passes that get table and timers out of line.
-/

namespace Household

/-- Every stored alarm has a timer, and every timer is that of a stored alarm. -/
def Store.IsTimedBy (s : Store) (ts : Timers) : Prop :=
  ∀ k, s.alarms.contains k = ts.waiting.contains k

namespace Overlap

variable {ι : Type}

/-- One pass has inserted the alarm of an id, and one has deleted it. -/
def Contested (o : Overlap ι) (k : Int64) : Prop :=
  o.Decided k true ∧ o.Decided k false

/-- Whether the last command about an id set its timer. -/
def armed? (o : Overlap ι) (k : Int64) : Option Bool :=
  (o.timer? k).map Option.isSome

variable {o : Overlap ι} {k : Int64} {b : Bool} {lead : Span} {store : Store} {timers : Timers}

/-- When all passes have come to an end, a command carries out what some pass has decided. -/
theorem Sound.decided_of_armed? (h : Sound lead store timers o) (hdone : ∀ i, (o.stage i).IsDone)
    (harmed : o.armed? k = some b) : o.Decided k b := by
  obtain ⟨t, ht, rfl⟩ := Option.map_eq_some_iff.mp harmed
  obtain ⟨i, diff, now, hmem, hn, intent, hintent, hid, c, elapsed, hc, rfl⟩ :=
    h.exists_intent hdone ht
  refine ⟨i, diff, now, hmem, (Diff.stored?_eq_some_iff hn).mpr ⟨intent, hintent, hid, ?_⟩⟩
  exact (Intent.isSome_timer? hc elapsed).symm

/-- **Under each id table and timers stay in line exactly if the last command agrees with the last
commit**, and the two can disagree only where one pass inserts the alarm and one deletes it. -/
theorem Sound.contains_eq_iff (h : Sound lead store timers o) (hdone : ∀ i, (o.stage i).IsDone)
    (hbefore : store.alarms.contains k = timers.waiting.contains k) :
    o.store.alarms.contains k = o.timers.waiting.contains k ↔
      (o.Contested k → o.stored? k = o.armed? k) := by
  have hstored : o.store.alarms.contains k =
      (o.stored? k).getD (store.alarms.contains k) := h.stored k
  have harmed : o.timers.waiting.contains k =
      (o.armed? k).getD (store.alarms.contains k) := by
    rw [Table.contains, h.timer k, armed?, hbefore, Table.contains]
    cases o.timer? k <;> rfl
  rw [hstored, harmed]
  cases hs : o.stored? k with
  | none =>
    cases ha : o.armed? k with
    | none => simp
    | some b =>
      -- Nothing is told to the scheduler that no pass has decided.
      obtain ⟨b', hb'⟩ := (h.decided_of_armed? hdone ha).exists_stored?
      exact absurd (hs.symm.trans hb') (by simp)
  | some b =>
    obtain ⟨t, ht⟩ := h.exists_timer? hdone (decided_of_stored? hs)
    obtain ⟨b', ha⟩ : ∃ b', o.armed? k = some b' := ⟨t.isSome, congrArg (Option.map _) ht⟩
    have hdecided := decided_of_stored? hs
    have hdecided' := h.decided_of_armed? hdone ha
    rw [ha]
    constructor
    · intro heq _
      exact congrArg some heq
    · intro hcontested
      -- Two decisions about an id that is not contested are the same one.
      cases b <;> cases b'
      · rfl
      · exact Option.some.inj (hcontested ⟨hdecided', hdecided⟩)
      · exact Option.some.inj (hcontested ⟨hdecided, hdecided'⟩)
      · rfl

variable [DecidableEq ι]

/-- **Overlapping passes keep table and timers in line exactly if under each id that one of them
inserts and one deletes the last command agrees with the last commit.** Under all other ids table
and timers are in line in any case. -/
theorem isTimedBy_run_iff (hk : store.Keyed) (hbefore : store.IsTimedBy timers)
    (moves : List (Move ι))
    (hdone : ∀ i, (((begin ι store timers).run lead moves).stage i).IsDone) :
    let o := (begin ι store timers).run lead moves
    (∀ k, ¬ o.Contested k → o.store.alarms.contains k = o.timers.waiting.contains k) ∧
      (o.store.IsTimedBy o.timers ↔ ∀ k, o.Contested k → o.stored? k = o.armed? k) := by
  intro o
  have hsound : Sound lead store timers o := sound_run hk moves
  have hid : ∀ k, o.store.alarms.contains k = o.timers.waiting.contains k ↔
      (o.Contested k → o.stored? k = o.armed? k) :=
    fun k => hsound.contains_eq_iff hdone (hbefore k)
  exact ⟨fun k hnot => (hid k).mpr fun h => absurd h hnot, forall_congr' hid⟩

/-- The passes over the laundry keep table and timers in line. -/
theorem isTimedBy_run_laundry :
    (Store.database Pass.laundryDatabase).Keyed ∧
      (Store.database Pass.laundryDatabase).IsTimedBy laundryTimers ∧
      (∀ i, (laundryOverlap.stage i).IsDone) ∧
      laundryOverlap.store.IsTimedBy laundryOverlap.timers := by
  have hbefore : (Store.database Pass.laundryDatabase).IsTimedBy laundryTimers := by
    intro k
    by_cases hkey : 7 = k <;>
      simp [Store.alarms, Pass.laundryDatabase, laundryTimers, Timers.schedule, Timers.idle,
        Table.contains, hkey]
  -- Both passes have committed the same diff, which cannot insert an alarm and delete it.
  obtain ⟨diff, due, due', hdeeds⟩ : ∃ diff due due', laundryOverlap.deeds =
      [(true, .command (.cancel 7) 0), (false, .command (.cancel 7) 0),
        (true, .command (.schedule 105 due) 0), (false, .command (.schedule 105 due') 0),
        (true, .commit diff Pass.noon), (false, .commit diff .epoch)] := ⟨_, _, _, rfl⟩
  have hcommit : ∀ i d now, (i, Deed.commit d now) ∈ laundryOverlap.deeds → d = diff := by
    intro i d now hmem
    rw [hdeeds] at hmem
    simp only [List.mem_cons, Prod.mk.injEq, reduceCtorEq, and_false, Deed.commit.injEq,
      List.not_mem_nil, or_false, false_or] at hmem
    rcases hmem with ⟨-, hd, -⟩ | ⟨-, hd, -⟩ <;> exact hd
  refine ⟨keyed_laundry, hbefore, isDone_laundry, (isTimedBy_run_iff keyed_laundry hbefore
    laundryMoves isDone_laundry).2.mpr fun k hcontested => ?_⟩
  obtain ⟨⟨i, d, now, hmem, hinserts⟩, j, d', now', hmem', hdeletes⟩ := hcontested
  obtain rfl := hcommit _ _ _ hmem
  obtain rfl := hcommit _ _ _ hmem'
  exact absurd (hinserts.symm.trans hdeletes) (by simp)

/-! ### Two passes at odds -/

/-- A database with the alarm of the washer's run. -/
def washerDatabase : Database :=
  { Database.empty with
    rows := Table.empty.insert 105 ⟨105, "Washer", 1705320000000, 300000⟩ }

/-- The timer of the washer's run. -/
def washerTimers : Timers :=
  (Timers.idle Timers.defaultNap).schedule 105 .epoch 0

/-- A pass finds the washer's run gone and deletes its alarm. Before it tells the scheduler, the run
is back, and another pass inserts the alarm and sets its timer. -/
def washerMoves : List (Move Bool) :=
  List.replicate 3 (.turn false (.ok []) .epoch 0) ++
    List.replicate 5 (.turn true (.ok Pass.laundryHistories) .epoch 0) ++
      List.replicate 2 (.turn false (.ok []) .epoch 0)

/-- How far the passes over the washer's run get, ten minutes ahead of every start. -/
def washerOverlap : Overlap Bool :=
  (begin Bool (.database washerDatabase) washerTimers).run ⟨600 * 1000000000⟩ washerMoves

/-- The passes over the washer's run leave its alarm without a timer, and later passes leave it
so. -/
theorem not_isTimedBy_washer :
    (Store.database washerDatabase).Keyed ∧
      (Store.database washerDatabase).IsTimedBy washerTimers ∧
      (∀ i, (washerOverlap.stage i).IsDone) ∧
      ¬ washerOverlap.store.IsTimedBy washerOverlap.timers ∧
      ∀ now lead, Pass.run ⟨.ok Pass.laundryHistories, now, lead⟩ washerOverlap.store =
        ⟨.ok ⟨[], []⟩, washerOverlap.store, []⟩ := by
  have hrows : Table.Keyed Row.id washerDatabase.rows :=
    Table.Keyed.empty.insert (⟨105, "Washer", 1705320000000, 300000⟩ : Row)
  refine ⟨hrows, fun k => ?_, fun i => ?_, fun h => ?_, fun now lead => rfl⟩
  · by_cases hkey : 105 = k <;>
      simp [Store.alarms, washerDatabase, washerTimers, Timers.schedule, Timers.idle,
        Table.contains, hkey]
  · cases i <;> exact trivial
  · have hstored : washerOverlap.store.alarms.contains 105 = true := rfl
    have harmed : washerOverlap.timers.waiting.contains 105 = false := rfl
    rw [h 105, harmed] at hstored
    cases hstored

end Overlap

end Household
