import Household.Proofs.Watch.Course

/-!
# Told to Start Too Late

When every timer fires as soon as it is due and every fired alarm is handled at once, a timer that
was set for a time before the end of the run leads to no notice after it. A restart sets no timer of
a run that has ended, and neither does a get-ready notice. A pass does, since it looks at the starts
of the runs alone: a run that has ended when a pass first finds it is told to start all the same.

## Main results

* `Punctual.proceed`: what each move of a prompt course makes of the timer of an id.
* `Course.le_now_iff_exists_inserts`: it is said to start a run that has ended exactly if it had
  ended before a pass put it into the table.
* `exists_told_too_late`: there is such a course.
-/

namespace Household.Watch

variable {lead : Span} {zone : Zone} {start w w' : Watch} {id : Int64} {legs : List Leg}

/-! ### Prompt courses -/

/-- The runs that the server lists, if it answers, last some time. -/
def Move.ListsLasting : Move → Prop
  | .pass (.ok deviceTasks) => ∀ a ∈ Diff.alarmsOf deviceTasks, a.Lasts
  | _ => True

instance : DecidablePred Move.ListsLasting
  | .pass (.ok deviceTasks) =>
    inferInstanceAs (Decidable (∀ a ∈ Diff.alarmsOf deviceTasks, a.Lasts))
  | .pass (.error _) => .isTrue trivial
  | .wake _ => .isTrue trivial
  | .dispatch => .isTrue trivial
  | .clock _ _ => .isTrue trivial
  | .trouble _ _ _ => .isTrue trivial
  | .restart => .isTrue trivial

/-- The clock does not go back, and it goes on only when no fired alarm is left to handle, and no
further than to the next time at which a timer is due. -/
structure Leg.IsPrompt (l : Leg) : Prop where
  move : l.move.ListsLasting
  now_le : l.before.now ≤ l.after.now
  waits : l.before.now < l.after.now →
    l.before.queue = [] ∧ ∀ t ∈ l.before.timers.waiting.values, l.after.now ≤ t.due

instance : DecidablePred Leg.IsPrompt := fun l =>
  decidable_of_iff
    (l.move.ListsLasting ∧ l.before.now ≤ l.after.now ∧ (l.before.now < l.after.now →
      l.before.queue = [] ∧ ∀ t ∈ l.before.timers.waiting.values, l.after.now ≤ t.due))
    ⟨fun h => ⟨h.1, h.2.1, h.2.2⟩, fun h => ⟨h.move, h.now_le, h.waits⟩⟩

/-- Every alarm is under its own id and lasts some time. -/
structure Lasting (w : Watch) : Prop where
  keyed : w.store.Keyed
  lasts : ∀ id a, w.store.alarms.get? id = some a → a.Lasts

/-- No timer has been set yet. -/
structure Unarmed (w : Watch) : Prop extends w.Lasting where
  queue_eq : w.queue = []
  due?_eq : ∀ id, w.due? id = none

/-- The store keeps that a run lasts some time. -/
theorem lasts_keep (s : Store) {a : Alarm} (h : a.Lasts) : (s.keep a).Lasts := by
  cases s with
  | memory alarms => exact h
  | database db => exact h.stored

/-- A run that lasts some time ends after its start by what the store keeps of it too. -/
theorem start_lt_of_endTime_keep (s : Store) {a : Alarm} {finish : Instant} (h : a.Lasts)
    (hend : (s.keep a).endTime = .ok finish) : a.start < finish := by
  cases s with
  | memory alarms => exact h.start_lt hend
  | database db => exact h.start_lt_stored hend

/-- Prompt legs keep it that every run lasts some time. -/
theorem Lasting.proceed (hlasting : w.Lasting) {m : Move} (hmove : m.ListsLasting)
    (h : w.proceed? lead zone m = some w') : w'.Lasting := by
  refine ⟨keyed_of_proceed? hlasting.keyed h, fun id b hb => ?_⟩
  cases effect_of_proceed? hlasting.keyed h id with
  | spared halarm _ _ _ => exact hlasting.lasts id b (halarm ▸ hb)
  | @inserted deviceTasks a due hm hlisted _ halarm _ _ _ _ _ =>
    obtain rfl := Option.some.inj (halarm.symm.trans hb)
    have hlists : (Move.pass (.ok deviceTasks)).ListsLasting := hm ▸ hmove
    exact lasts_keep w.store (hlists a hlisted)
  | deleted _ halarm _ _ _ => cases halarm.symm.trans hb
  | fired _ _ halarm _ _ _ _ => exact hlasting.lasts id b (halarm ▸ hb)
  | dropped halarm _ _ _ _ => exact hlasting.lasts id b (halarm ▸ hb)
  | handled hbefore halarm _ _ _ _ _ =>
    obtain rfl := Option.some.inj (halarm.symm.trans hb)
    exact hlasting.lasts id _ hbefore
  | restarted _ halarm _ _ _ _ => exact hlasting.lasts id b (halarm ▸ hb)

/-! ### What a timer leads to -/

/-- A run that has ended by this time is put into the table on the way. -/
def InsertedLate (id : Int64) (finish : Instant) (legs : List Leg) : Prop :=
  ∃ l ∈ legs, l.Inserts id ∧ finish ≤ l.before.now

/-- The timer of an id is due, and its fired alarm waits, before the end of the run, unless the run
was put into the table too late. -/
structure Punctual (id : Int64) (legs : List Leg) (w : Watch) : Prop where
  timer : ∀ due, w.due? id = some due → w.now ≤ due ∧
    ∀ a finish, w.store.alarms.get? id = some a → a.endTime = .ok finish →
      due < finish ∨ InsertedLate id finish legs
  queued : id ∈ w.queue → ∀ a finish, w.store.alarms.get? id = some a → a.endTime = .ok finish →
    w.now < finish ∨ InsertedLate id finish legs

/-- Nothing has been set at an unarmed start. -/
theorem Unarmed.punctual (h : start.Unarmed) : Punctual id [] start where
  timer due hdue := by cases (h.due?_eq id).symm.trans hdue
  queued hq := by
    rw [h.queue_eq] at hq
    cases hq

/-- What was put into the table too late on the way remains so. -/
theorem InsertedLate.cons {finish : Instant} (l : Leg) (h : InsertedLate id finish legs) :
    InsertedLate id finish (l :: legs) := by
  obtain ⟨k, hk, hinserts⟩ := h
  exact ⟨k, List.mem_cons_of_mem _ hk, hinserts⟩

/-- A leg that leaves alarm and timer as they are and lets nothing fire keeps it up. -/
theorem Punctual.quiet {m : Move} (hpunctual : Punctual id legs w)
    (hleg : Leg.IsPrompt ⟨w, m, w'⟩)
    (halarm : w'.store.alarms.get? id = w.store.alarms.get? id) (hdue : w'.due? id = w.due? id)
    (hqueue : id ∈ w'.queue → id ∈ w.queue) : Punctual id (⟨w, m, w'⟩ :: legs) w' := by
  refine ⟨fun due hset => ?_, fun hq a finish ha hend => ?_⟩
  · rw [hdue] at hset
    obtain ⟨hnow, hfinish⟩ := hpunctual.timer due hset
    refine ⟨?_, fun a finish ha hend => ?_⟩
    · rcases hleg.now_le.eq_or_lt with heq | hlt
      · exact heq ▸ hnow
      · obtain ⟨t, ht, rfl⟩ := Option.map_eq_some_iff.mp hset
        exact (hleg.waits hlt).2 t ((Table.mem_values_iff _).mpr ⟨id, ht⟩)
    · exact (hfinish a finish (halarm ▸ ha) hend).imp_right (·.cons _)
  · have hold := hqueue hq
    -- With a fired alarm waiting the clock has stood still.
    have hnow : w.now = w'.now := by
      refine hleg.now_le.eq_of_not_lt fun hlt => ?_
      rw [(hleg.waits hlt).1] at hold
      cases hold
    rw [← hnow]
    exact (hpunctual.queued hold a finish (halarm ▸ ha) hend).imp_right (·.cons _)

/-- **Every prompt leg keeps it up that a timer is due before the end of its run**, unless a pass
puts the run into the table too late. -/
theorem Punctual.proceed (hlead : 0 ≤ lead.nanos) {m : Move} (hlasting : w.Lasting)
    (hpunctual : Punctual id legs w) (hleg : Leg.IsPrompt ⟨w, m, w'⟩)
    (h : w.proceed? lead zone m = some w') : Punctual id (⟨w, m, w'⟩ :: legs) w' := by
  cases effect_of_proceed? hlasting.keyed h id with
  | spared halarm hdue hqueue _ =>
    refine hpunctual.quiet hleg halarm hdue fun hq => ?_
    rw [← List.count_pos_iff] at hq ⊢
    rwa [← hqueue]
  | dropped halarm hdue hqueue _ _ =>
    refine hpunctual.quiet hleg halarm hdue fun hq => ?_
    rw [hqueue]
    exact List.mem_cons_of_mem _ hq
  | @inserted deviceTasks a due hmove hlisted hbefore halarm hfire hdue hqueue hnow _ =>
    have hlasts : a.Lasts :=
      (hmove ▸ hleg.move : (Move.pass (.ok deviceTasks)).ListsLasting) a hlisted
    obtain ⟨ahead, hahead, rfl⟩ := firstFire_eq_ok_iff_max.mp hfire
    have hle : ahead ≤ a.start := Instant.le_of_sub_eq_ok hlasts.1 hlead hahead
    -- The run has ended by now, or the end is after the start and so after the timer is due.
    have hlate : ∀ b finish, w'.store.alarms.get? id = some b → b.endTime = .ok finish →
        w.now < finish ∧ ahead < finish ∨ InsertedLate id finish (⟨w, m, w'⟩ :: legs) := by
      intro b finish hb hend
      obtain rfl := Option.some.inj (halarm.symm.trans hb)
      rcases lt_or_ge w.now finish with hlt | hge
      · exact .inl ⟨hlt, hle.trans_lt (start_lt_of_endTime_keep w.store hlasts hend)⟩
      · exact .inr ⟨_, List.mem_cons_self, ⟨hbefore, _, halarm⟩, hge⟩
    refine ⟨fun due hset => ?_, fun _ b finish hb hend => ?_⟩
    · obtain rfl := Option.some.inj (hdue.symm.trans hset)
      rw [hnow]
      refine ⟨le_max_left _ _, fun b finish hb hend => ?_⟩
      exact (hlate b finish hb hend).imp_left fun ⟨hlt, hlt'⟩ => max_lt hlt hlt'
    · rw [hnow]
      exact (hlate b finish hb hend).imp_left And.left
  | deleted _ halarm hdue _ _ =>
    refine ⟨fun due hset => ?_, fun _ a finish ha _ => ?_⟩
    · cases hdue.symm.trans hset
    · cases halarm.symm.trans ha
  | @fired t ht _ halarm hdue _ hnow _ =>
    refine ⟨fun due hset => ?_, fun _ a finish ha hend => ?_⟩
    · cases hdue.symm.trans hset
    · obtain ⟨hle, hfinish⟩ := hpunctual.timer t.due (by rw [due?, ht, Option.map_some])
      rw [hnow]
      exact (hfinish a finish (halarm ▸ ha) hend).imp hle.trans_lt (·.cons _)
  | @handled a _ hbefore halarm _ hdue hqueue hnow _ =>
    by_cases hahead : w.now < a.start
    · rw [if_pos hahead] at hdue
      refine ⟨fun due hset => ?_, fun hq b finish hb hend => ?_⟩
      · obtain rfl := Option.some.inj (hdue.symm.trans hset)
        rw [hnow]
        refine ⟨hahead.le, fun b finish hb hend => ?_⟩
        obtain rfl := Option.some.inj (halarm.symm.trans hb)
        exact .inl ((hlasting.lasts id a hbefore).start_lt hend)
      · rw [hnow]
        refine (hpunctual.queued ?_ b finish ?_ hend).imp_right (·.cons _)
        · exact hqueue ▸ List.mem_cons_self
        · exact hbefore.trans (halarm.symm.trans hb)
    · rw [if_neg hahead] at hdue
      refine hpunctual.quiet hleg (halarm.trans hbefore.symm) hdue fun _ => ?_
      exact hqueue ▸ List.mem_cons_self
  | restarted _ halarm hqueue hset hnow _ =>
    refine ⟨fun due hdue => ?_, fun hq => ?_⟩
    · obtain ⟨a, ha, -, hended, hfire⟩ := hset due hdue
      have hlasts := hlasting.lasts id a ha
      obtain ⟨ahead, hahead, rfl⟩ := firstFire_eq_ok_iff_max.mp hfire
      have hle : ahead ≤ a.start := Instant.le_of_sub_eq_ok hlasts.1 hlead hahead
      rw [hnow]
      refine ⟨le_max_left _ _, fun b finish hb hend => .inl ?_⟩
      obtain rfl := Option.some.inj ((halarm.trans ha).symm.trans hb)
      exact max_lt (not_le.mp fun hge => hended ⟨finish, hend, hge⟩)
        (hle.trans_lt (hlasts.start_lt hend))
    · rw [hqueue] at hq
      cases hq

/-! ### Prompt courses -/

/-- What holds of alarms and timers on a prompt course. -/
theorem Course.lasting_punctual (hlead : 0 ≤ lead.nanos) (h : Course lead zone start legs w)
    (hstart : start.Unarmed) (hprompt : ∀ l ∈ legs, l.IsPrompt) :
    w.Lasting ∧ Punctual id legs w := by
  induction h with
  | stay => exact ⟨hstart.toLasting, hstart.punctual⟩
  | go _ hproceed ih =>
    obtain ⟨hleg, hlegs⟩ := List.forall_mem_cons.mp hprompt
    obtain ⟨hlasting, hpunctual⟩ := ih hlegs
    exact ⟨hlasting.proceed hleg.move hproceed, hpunctual.proceed hlead hlasting hleg hproceed⟩

/-- On a prompt course no leg begins later than the course ends. -/
theorem Course.now_le (h : Course lead zone start legs w) (hprompt : ∀ l ∈ legs, l.IsPrompt) :
    ∀ l ∈ legs, l.before.now ≤ w.now := by
  induction h with
  | stay => exact fun _ hl => absurd hl List.not_mem_nil
  | go _ _ ih =>
    obtain ⟨hleg, hlegs⟩ := List.forall_mem_cons.mp hprompt
    exact List.forall_mem_cons.mpr ⟨hleg.now_le, fun l hl => (ih hlegs l hl).trans hleg.now_le⟩

/-- **It is said to start a run that has ended exactly if it had ended before it was known.** With a
lead that is not negative and runs that last some time, outside leap seconds, and on a course on
which every timer fires as soon as it is due and every fired alarm is handled at once: the end that
a start-now notice names is no later than the clock exactly if the alarm was put into the table when
that was so already. -/
theorem Course.le_now_iff_exists_inserts (hlead : 0 ≤ lead.nanos) {l : Leg}
    (h : Course lead zone start (l :: legs) w) (hstart : start.Unarmed)
    (hprompt : ∀ k ∈ l :: legs, k.IsPrompt) {name : String} {finish : Instant}
    (hnotice : l.notice? zone id = some (.startNow name finish)) :
    finish ≤ l.before.now ↔ ∃ k ∈ legs, k.Inserts id ∧ finish ≤ k.before.now := by
  obtain ⟨hleg, hlegs⟩ := List.forall_mem_cons.mp hprompt
  cases h with
  | @go _ w w' m hcourse hproceed =>
    obtain ⟨hlasting, hpunctual⟩ : w.Lasting ∧ Punctual id legs w :=
      hcourse.lasting_punctual hlead hstart hlegs
    constructor
    · intro hle
      obtain ⟨a, ha, hspeaks, -, hqueue⟩ :=
        (effect_of_proceed? hlasting.keyed hproceed id).exists_of_notice hnotice
      rcases Firing.forAlarm_eq_ok_iff.mp hspeaks with ⟨-, hne⟩ | ⟨-, finish', hend, heq⟩
      · cases hne
      · obtain ⟨-, rfl⟩ := Notice.startNow.inj heq
        have hmem : id ∈ w.queue := hqueue ▸ List.mem_cons_self
        exact (hpunctual.queued hmem a finish ha hend).resolve_left (not_lt.mpr hle)
    · rintro ⟨k, hk, -, hle⟩
      exact hle.trans (hcourse.now_le hlegs k hk)

/-! ### An afternoon -/

/-- One o'clock on 15 January 2024. -/
def oneOClock : Instant :=
  { Instant.epoch with
    second := 1705323600
    first_le := by decide
    le_last := by decide
    leap_last := by decide }

/-- A household with an empty table, an hour after its washer was to start. -/
def afternoon : Watch :=
  { laundry with store := .database .empty, made := .empty, now := oneOClock }

/-- Nothing is known in the afternoon. -/
theorem unarmed_afternoon : afternoon.Unarmed where
  keyed := Table.Keyed.empty
  lasts _ _ ha := by cases ha
  queue_eq := rfl
  due?_eq _ := rfl

/-- The first pass of the afternoon finds a run of five minutes that started at noon. It is said to
start it, since it had ended before it was known. -/
theorem le_now_iff_afternoon :
    ∃ l legs w, Course ⟨600000000000⟩ .universal afternoon (l :: legs) w ∧
      (∀ k ∈ l :: legs, k.IsPrompt) ∧
      l.notice? .universal 105 = some (.startNow "Washer" fivePastNoon) ∧
      (fivePastNoon ≤ l.before.now ↔
        ∃ k ∈ legs, k.Inserts 105 ∧ fivePastNoon ≤ k.before.now) := by
  have hstay : Course ⟨600000000000⟩ .universal afternoon [] _ := .stay
  have hpass := hstay.go (m := .pass (.ok Pass.laundryHistories)) rfl
  have htold := (hpass.go (m := .wake 105) rfl).go (m := .dispatch) rfl
  refine ⟨_, _, _, htold, ?prompt, ?notice, htold.le_now_iff_exists_inserts (by decide)
    unarmed_afternoon ?prompt ?notice⟩
  case prompt => decide
  case notice => rfl

/-- **It can be said to start a run that has ended**, though every timer fires as soon as it is due
and every fired alarm is handled at once. -/
theorem exists_told_too_late :
    ∃ l legs w name finish, Course ⟨600000000000⟩ .universal afternoon (l :: legs) w ∧
      afternoon.Unarmed ∧ (∀ k ∈ l :: legs, k.IsPrompt) ∧
      l.notice? .universal 105 = some (.startNow name finish) ∧ ¬ l.before.now < finish := by
  have hstay : Course ⟨600000000000⟩ .universal afternoon [] _ := .stay
  have hpass := hstay.go (m := .pass (.ok Pass.laundryHistories)) rfl
  have htold := (hpass.go (m := .wake 105) rfl).go (m := .dispatch) rfl
  refine ⟨_, _, _, "Washer", fivePastNoon, htold, unarmed_afternoon, ?_, rfl, ?_⟩
  · decide
  · decide

end Household.Watch
