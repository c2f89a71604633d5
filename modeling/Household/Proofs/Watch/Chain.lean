import Household.Proofs.Watch.Course

/-!
# The Chain of Notices

Between two restarts an id is told at most once to get ready, ahead of the start, and then at most
once to start now. At every moment it has at most one timer or fired alarm that can lead to another
notice. While nothing has been said, nothing need be known of it; once it has been said to get
ready, it leads to the start, and after that there is none.

## Main results

* `Chained.proceed`: what each move makes of the chain of an id.
* `Course.chained`: what holds of the notices of an id on every course.
-/

namespace Household

/-- The notice says to start now. -/
def Notice.isStartNow : Notice → Bool
  | .getReady _ _ => false
  | .startNow _ _ => true

namespace Watch

variable {lead : Span} {zone : Zone} {start w w' : Watch} {id : Int64} {legs : List Leg}

/-! ### Away from leap seconds -/

/-- Every alarm is under its own id, and neither its start nor the clock is in a leap second. -/
structure Calm (w : Watch) : Prop where
  keyed : w.store.Keyed
  start_isLeap_eq : ∀ id a, w.store.alarms.get? id = some a → a.start.isLeap = false
  now_isLeap_eq : w.now.isLeap = false

/-- The move is no restart, and no listed run starts in a leap second. -/
def Move.IsOrdinary : Move → Prop
  | .pass (.ok deviceTasks) => ∀ a ∈ Diff.alarmsOf deviceTasks, a.start.isLeap = false
  | .restart => False
  | _ => True

instance : DecidablePred Move.IsOrdinary
  | .pass (.ok deviceTasks) =>
    inferInstanceAs (Decidable (∀ a ∈ Diff.alarmsOf deviceTasks, a.start.isLeap = false))
  | .restart => .isFalse not_false
  | .pass (.error _) => .isTrue trivial
  | .wake _ => .isTrue trivial
  | .dispatch => .isTrue trivial
  | .clock _ _ => .isTrue trivial
  | .trouble _ _ _ => .isTrue trivial

/-- A leg between two restarts on which the clock does not go back, away from leap seconds. -/
structure Leg.IsOrdinary (l : Leg) : Prop where
  move : l.move.IsOrdinary
  now_le : l.before.now ≤ l.after.now
  now_isLeap_eq : l.after.now.isLeap = false

instance : DecidablePred Leg.IsOrdinary := fun l =>
  decidable_of_iff
    (l.move.IsOrdinary ∧ l.before.now ≤ l.after.now ∧ l.after.now.isLeap = false)
    ⟨fun h => ⟨h.1, h.2.1, h.2.2⟩, fun h => ⟨h.move, h.now_le, h.now_isLeap_eq⟩⟩

/-- Ordinary legs stay away from leap seconds. -/
theorem Calm.proceed (hcalm : w.Calm) {m : Move} (hleg : Leg.IsOrdinary ⟨w, m, w'⟩)
    (h : w.proceed? lead zone m = some w') : w'.Calm := by
  refine ⟨keyed_of_proceed? hcalm.keyed h, fun id b hb => ?_, hleg.now_isLeap_eq⟩
  cases effect_of_proceed? hcalm.keyed h id with
  | spared halarm _ _ _ => exact hcalm.start_isLeap_eq id b (halarm ▸ hb)
  | @inserted deviceTasks a due hmove hlisted _ halarm _ _ _ _ _ =>
    obtain rfl := Option.some.inj (halarm.symm.trans hb)
    have hlists : (Move.pass (.ok deviceTasks)).IsOrdinary := hmove ▸ hleg.move
    exact (start_keep_le w.store (hlists a hlisted)).1
  | deleted _ halarm _ _ _ => cases halarm.symm.trans hb
  | fired _ _ halarm _ _ _ _ => exact hcalm.start_isLeap_eq id b (halarm ▸ hb)
  | dropped halarm _ _ _ _ => exact hcalm.start_isLeap_eq id b (halarm ▸ hb)
  | handled hbefore halarm _ _ _ _ _ =>
    obtain rfl := Option.some.inj (halarm.symm.trans hb)
    exact hcalm.start_isLeap_eq id _ hbefore
  | restarted hmove _ _ _ _ _ => exact (hmove ▸ hleg.move : Move.restart.IsOrdinary).elim

/-- Nothing has fired yet, and every timer is that of a stored alarm. -/
structure Fresh (w : Watch) : Prop extends w.Calm where
  queue_eq : w.queue = []
  exists_alarm : ∀ id due, w.due? id = some due → ∃ a, w.store.alarms.get? id = some a

/-- A restart away from leap seconds makes a fresh start. -/
theorem Calm.fresh_of_restart? (hcalm : w.Calm) (h : w.restart? lead = some w') : w'.Fresh := by
  have hdue : ∀ id due, w'.due? id = some due →
      ∃ a, w.store.alarms.get? id = some a ∧ a.RearmsAt w.now lead due :=
    fun _ _ => exists_rearmsAt_of_restart? hcalm.keyed h
  obtain ⟨stored, -, -, rfl⟩ := restart?_cases h
  refine ⟨⟨?_, ?_, ?_⟩, queue_obeyAll _ _, fun id due hset => ?_⟩
  · rw [store_obeyAll]
    exact hcalm.keyed
  · rw [store_obeyAll]
    exact hcalm.start_isLeap_eq
  · rw [now_obeyAll]
    exact hcalm.now_isLeap_eq
  · rw [store_obeyAll]
    obtain ⟨a, ha, -⟩ := hdue id due hset
    exact ⟨a, ha⟩

/-! ### The chain -/

/-- What is still to come of a stored alarm, by what has been shown for it. -/
inductive Link (id : Int64) (w : Watch) (a : Alarm) : List Notice → Prop
  /-- Nothing has been shown. -/
  | silent : Link id w a []
  /-- It was said to get ready: what comes next comes at the start. -/
  | readied {name : String} {minutes : Int} (hdue : ∀ due, w.due? id = some due → due = a.start)
      (hqueue : id ∈ w.queue → a.start ≤ w.now) : Link id w a [.getReady name minutes]
  /-- It was said to start now: nothing comes any more. -/
  | started {name : String} {finish : Instant} {earlier : List Notice} (hdue : w.due? id = none)
      (hqueue : id ∉ w.queue) : Link id w a (.startNow name finish :: earlier)

/-- What has been shown for an id, and what can still come. -/
structure Chained (zone : Zone) (id : Int64) (legs : List Leg) (w : Watch) : Prop where
  /-- At most once it was said to get ready, and then at most once to start now. -/
  shape : ((notices zone id legs).reverse.map Notice.isStartNow).Sublist [false, true]
  /-- The alarm has not fired while its timer is set, and has not fired twice. -/
  once : w.queue.count id + (w.due? id).toList.length ≤ 1
  /-- A stored alarm was never deleted. -/
  stored : ∀ a, w.store.alarms.get? id = some a →
    Link id w a (notices zone id legs) ∧ ∀ l ∈ legs, ¬ l.Deletes id
  /-- Without an alarm there is no timer, and as long as none was deleted, nothing else. -/
  absent : w.store.alarms.get? id = none →
    w.due? id = none ∧ (id ∉ w.queue ∧ notices zone id legs = [] ∨ ∃ l ∈ legs, l.Deletes id)

/-- What a leg shows comes before what was shown earlier. -/
@[simp] theorem notices_cons (zone : Zone) (id : Int64) (l : Leg) (legs : List Leg) :
    notices zone id (l :: legs) = (l.notice? zone id).toList ++ notices zone id legs := by
  rw [notices, List.filterMap_cons]
  cases l.notice? zone id <;> rfl

/-- The chain of an id at a fresh start. -/
theorem Fresh.chained_nil (h : start.Fresh) : Chained zone id [] start := by
  have hcount : start.queue.count id = 0 := by rw [h.queue_eq, List.count_nil]
  refine ⟨List.nil_sublist _, ?_, fun a _ => ⟨.silent, fun _ hl => absurd hl List.not_mem_nil⟩,
    fun hnone => ⟨?_, .inl ⟨?_, rfl⟩⟩⟩
  · rw [hcount, Nat.zero_add]
    exact Option.length_toList_le
  · refine Option.eq_none_iff_forall_ne_some.mpr fun due hdue => ?_
    obtain ⟨a, ha⟩ := h.exists_alarm id due hdue
    cases hnone.symm.trans ha
  · rw [h.queue_eq]
    exact List.not_mem_nil

/-- A leg that shows nothing for the id and leaves its alarm as it is keeps up the chain if it keeps
up what is still to come, and lets nothing fire out of nothing. -/
theorem Chained.quiet {m : Move} (hchain : Chained zone id legs w)
    (halarm : w'.store.alarms.get? id = w.store.alarms.get? id)
    (hnotice : Leg.notice? zone id ⟨w, m, w'⟩ = none)
    (honce : w'.queue.count id + (w'.due? id).toList.length ≤ 1)
    (hlink : ∀ a, w.store.alarms.get? id = some a →
      Link id w a (notices zone id legs) → Link id w' a (notices zone id legs))
    (hnothing : w.due? id = none → w'.due? id = none ∧ (id ∉ w.queue → id ∉ w'.queue)) :
    Chained zone id (⟨w, m, w'⟩ :: legs) w' := by
  have hsame : notices zone id (⟨w, m, w'⟩ :: legs) = notices zone id legs := by
    rw [notices_cons, hnotice, Option.toList_none, List.nil_append]
  refine ⟨hsame ▸ hchain.shape, honce, fun a ha => ?_, fun hnone => ?_⟩
  · rw [halarm] at ha
    obtain ⟨hold, hkept⟩ := hchain.stored a ha
    refine ⟨hsame ▸ hlink a ha hold, List.forall_mem_cons.mpr ⟨?_, hkept⟩⟩
    rintro ⟨-, hdeleted⟩
    cases (halarm.trans ha).symm.trans hdeleted
  · rw [halarm] at hnone
    obtain ⟨hdue, hrest⟩ := hchain.absent hnone
    obtain ⟨hdue', hqueue⟩ := hnothing hdue
    refine ⟨hdue', ?_⟩
    rcases hrest with ⟨hnot, hsilent⟩ | ⟨l, hl, hdeletes⟩
    · exact .inl ⟨hqueue hnot, hsame.trans hsilent⟩
    · exact .inr ⟨l, List.mem_cons_of_mem _ hl, hdeletes⟩

/-- An alarm that has fired waits without a timer, and only once. -/
theorem Chained.of_queue {queue : List Int64} (hchain : Chained zone id legs w)
    (hqueue : w.queue = id :: queue) : w.due? id = none ∧ id ∉ queue := by
  have honce := hchain.once
  rw [hqueue, List.count_cons_self] at honce
  constructor
  · cases hdue : w.due? id with
    | none => rfl
    | some due =>
      rw [hdue, Option.toList_some, List.length_singleton] at honce
      omega
  · rw [← List.count_eq_zero]
    omega

/-- What has been shown and what is still to come once a fired alarm has said what it has to say. -/
theorem Link.handled {a : Alarm} {notice : Notice} {shown : List Notice}
    (hlink : Link id w a shown) (hmem : id ∈ w.queue) (hnone : w.due? id = none)
    (hnot : id ∉ w'.queue) (hspeaks : Notice.forAlarm a w.now = .ok notice)
    (hdue : w'.due? id = if w.now < a.start then some a.start else w.due? id) :
    Link id w' a (notice :: shown) ∧
      ((notice :: shown).reverse.map Notice.isStartNow).Sublist [false, true] := by
  rcases Firing.forAlarm_eq_ok_iff.mp hspeaks with ⟨hahead, rfl⟩ | ⟨hstart, finish, -, rfl⟩
  · rw [if_pos hahead] at hdue
    cases hlink with
    | silent =>
      refine ⟨.readied (fun due hset => ?_) fun hq => absurd hq hnot, .cons_cons _ (.cons _ .slnil)⟩
      exact (Option.some.inj (hdue.symm.trans hset)).symm
    | readied _ hfired => exact absurd (hfired hmem) (not_le.mpr hahead)
    | started _ hgone => exact absurd hmem hgone
  · rw [if_neg (not_lt.mpr hstart)] at hdue
    refine ⟨.started (hdue.trans hnone) hnot, ?_⟩
    cases hlink with
    | silent => exact .cons _ (.refl _)
    | readied _ _ => exact .refl _
    | started _ hgone => exact absurd hmem hgone

/-- A leg that does nothing to the id keeps up its chain, whatever time it is afterwards. -/
theorem Chained.spared {m : Move} (hchain : Chained zone id legs w) (hnow : w.now ≤ w'.now)
    (halarm : w'.store.alarms.get? id = w.store.alarms.get? id) (hdue : w'.due? id = w.due? id)
    (hqueue : w'.queue.count id = w.queue.count id)
    (hnotice : Leg.notice? zone id ⟨w, m, w'⟩ = none) :
    Chained zone id (⟨w, m, w'⟩ :: legs) w' := by
  have hmem : id ∈ w'.queue ↔ id ∈ w.queue := by
    rw [← List.count_pos_iff, ← List.count_pos_iff, hqueue]
  refine hchain.quiet halarm hnotice ?_ (fun a ha hlink => ?_) fun hnone =>
    ⟨hdue.trans hnone, mt hmem.mp⟩
  · rw [hqueue, hdue]
    exact hchain.once
  · generalize notices zone id legs = shown at hlink
    cases hlink with
    | silent => exact .silent
    | readied hstart hfired =>
      exact .readied (hdue ▸ hstart) fun hq => (hfired (hmem.mp hq)).trans hnow
    | started hnone hnot => exact .started (hdue.trans hnone) (mt hmem.mp hnot)

/-- A leg that puts an alarm into the table that was never deleted begins its chain. -/
theorem Chained.inserted {m : Move} {a : Alarm} {due : Instant} (hchain : Chained zone id legs w)
    (hkept : ∀ l ∈ legs, ¬ l.Deletes id) (hbefore : w.store.alarms.get? id = none)
    (halarm : w'.store.alarms.get? id = some a) (hdue : w'.due? id = some due)
    (hqueue : w'.queue = w.queue) (hnotice : Leg.notice? zone id ⟨w, m, w'⟩ = none) :
    Chained zone id (⟨w, m, w'⟩ :: legs) w' := by
  obtain ⟨-, hrest⟩ := hchain.absent hbefore
  obtain ⟨hnot, hsilent⟩ := hrest.resolve_right fun ⟨l, hl, hdeletes⟩ => hkept l hl hdeletes
  have hshown : notices zone id (⟨w, m, w'⟩ :: legs) = [] := by
    rw [notices_cons, hnotice, hsilent]
    rfl
  refine ⟨?_, ?_, fun b _ => ⟨?_, List.forall_mem_cons.mpr ⟨?_, hkept⟩⟩, fun hnone => ?_⟩
  · rw [hshown]
    exact List.nil_sublist _
  · rw [hqueue, hdue, List.count_eq_zero.mpr hnot]
    exact le_refl 1
  · rw [hshown]
    exact .silent
  · rintro ⟨⟨b, hb⟩, -⟩
    cases hbefore.symm.trans hb
  · cases halarm.symm.trans hnone

/-- A leg that takes the alarm out of the table ends its chain. -/
theorem Chained.deleted {m : Move} {a : Alarm} (hchain : Chained zone id legs w)
    (hbefore : w.store.alarms.get? id = some a) (halarm : w'.store.alarms.get? id = none)
    (hdue : w'.due? id = none) (hqueue : w'.queue = w.queue)
    (hnotice : Leg.notice? zone id ⟨w, m, w'⟩ = none) :
    Chained zone id (⟨w, m, w'⟩ :: legs) w' := by
  refine ⟨?_, ?_, fun b hb => ?_, fun _ => ⟨hdue, .inr ⟨_, List.mem_cons_self, ?_⟩⟩⟩
  · rw [notices_cons, hnotice]
    exact hchain.shape
  · rw [hqueue, hdue]
    exact (Nat.le_add_right _ _).trans hchain.once
  · cases halarm.symm.trans hb
  · exact ⟨⟨_, hbefore⟩, halarm⟩

/-- A timer that fires leaves the chain at the fired alarm. If it was said to get ready, it was set
for the start, which has come. -/
theorem Chained.fired {m : Move} {t : Timer} (hcalm : w.Calm) (hchain : Chained zone id legs w)
    (ht : w.timers.waiting.get? id = some t)
    (hnap : nap? w.timers.longestNap t.due w.now = none)
    (halarm : w'.store.alarms.get? id = w.store.alarms.get? id) (hdue : w'.due? id = none)
    (hqueue : w'.queue = w.queue ++ [id]) (hnow : w'.now = w.now)
    (hnotice : Leg.notice? zone id ⟨w, m, w'⟩ = none) :
    Chained zone id (⟨w, m, w'⟩ :: legs) w' := by
  have hset : w.due? id = some t.due := by rw [due?, ht, Option.map_some]
  refine hchain.quiet halarm hnotice ?_ (fun a ha hlink => ?_) fun hnone => ?_
  · have honce := hchain.once
    rw [hset] at honce
    rw [hqueue, hdue, List.count_append, List.count_singleton_self]
    exact honce
  · generalize notices zone id legs = shown at hlink
    cases hlink with
    | silent => exact .silent
    | readied hstart _ =>
      refine .readied (fun due hsome => ?_) fun _ => ?_
      · cases hdue.symm.trans hsome
      · rw [hstart _ hset] at hnap
        rw [hnow]
        exact due_le_of_nap?_eq_none (hcalm.start_isLeap_eq id a ha) hcalm.now_isLeap_eq hnap
    | started hnone _ => cases hset.symm.trans hnone
  · cases hset.symm.trans hnone

/-- A fired alarm that is dropped leaves neither a timer nor itself. -/
theorem Chained.dropped {m : Move} (hchain : Chained zone id legs w)
    (halarm : w'.store.alarms.get? id = w.store.alarms.get? id) (hdue : w'.due? id = w.due? id)
    (hqueue : w.queue = id :: w'.queue) (hnotice : Leg.notice? zone id ⟨w, m, w'⟩ = none) :
    Chained zone id (⟨w, m, w'⟩ :: legs) w' := by
  obtain ⟨hnone, hnot⟩ := hchain.of_queue hqueue
  refine hchain.quiet halarm hnotice ?_ (fun a ha hlink => ?_) fun _ =>
    ⟨hdue.trans hnone, fun _ => hnot⟩
  · rw [hdue, hnone, List.count_eq_zero.mpr hnot]
    exact Nat.zero_le 1
  · generalize notices zone id legs = shown at hlink
    cases hlink with
    | silent => exact .silent
    | readied hstart _ => exact .readied (hdue ▸ hstart) fun hq => absurd hq hnot
    | started _ hgone => exact absurd (hqueue ▸ List.mem_cons_self) hgone

/-- A fired alarm that says what it has to say takes its chain one notice further. -/
theorem Chained.handled {m : Move} {a : Alarm} {notice : Notice} (hchain : Chained zone id legs w)
    (hbefore : w.store.alarms.get? id = some a) (halarm : w'.store.alarms.get? id = some a)
    (hspeaks : Notice.forAlarm a w.now = .ok notice)
    (hdue : w'.due? id = if w.now < a.start then some a.start else w.due? id)
    (hqueue : w.queue = id :: w'.queue)
    (hnotice : Leg.notice? zone id ⟨w, m, w'⟩ = some notice) :
    Chained zone id (⟨w, m, w'⟩ :: legs) w' := by
  obtain ⟨hnone, hnot⟩ := hchain.of_queue hqueue
  obtain ⟨hlink, hkept⟩ := hchain.stored a hbefore
  have hsilent : ¬ Leg.Deletes id ⟨w, m, w'⟩ := by
    rintro ⟨-, hgone⟩
    cases halarm.symm.trans hgone
  have hmem : id ∈ w.queue := hqueue ▸ List.mem_cons_self
  have hnext := hlink.handled hmem hnone hnot hspeaks hdue
  have hcons : notices zone id (⟨w, m, w'⟩ :: legs) = notice :: notices zone id legs := by
    rw [notices_cons, hnotice]
    rfl
  refine ⟨hcons ▸ hnext.2, ?_, fun b hb => ?_, fun hgone => ?_⟩
  · rw [List.count_eq_zero.mpr hnot, Nat.zero_add]
    exact Option.length_toList_le
  · obtain rfl := Option.some.inj (halarm.symm.trans hb)
    exact ⟨hcons ▸ hnext.1, List.forall_mem_cons.mpr ⟨hsilent, hkept⟩⟩
  · cases halarm.symm.trans hgone

/-- **Every leg between two restarts keeps up the chain of an id**, unless it puts an alarm back
that was deleted. -/
theorem Chained.proceed {m : Move} (hcalm : w.Calm) (hchain : Chained zone id legs w)
    (hleg : Leg.IsOrdinary ⟨w, m, w'⟩)
    (hnew : Leg.Inserts id ⟨w, m, w'⟩ → ∀ l ∈ legs, ¬ l.Deletes id)
    (h : w.proceed? lead zone m = some w') : Chained zone id (⟨w, m, w'⟩ :: legs) w' := by
  cases effect_of_proceed? hcalm.keyed h id with
  | spared halarm hdue hqueue hnotice =>
    exact hchain.spared hleg.now_le halarm hdue hqueue hnotice
  | inserted _ _ hbefore halarm _ hdue hqueue _ hnotice =>
    exact hchain.inserted (hnew ⟨hbefore, _, halarm⟩) hbefore halarm hdue hqueue hnotice
  | deleted hbefore halarm hdue hqueue hnotice =>
    exact hchain.deleted hbefore halarm hdue hqueue hnotice
  | fired ht hnap halarm hdue hqueue hnow hnotice =>
    exact hchain.fired hcalm ht hnap halarm hdue hqueue hnow hnotice
  | dropped halarm hdue hqueue _ hnotice => exact hchain.dropped halarm hdue hqueue hnotice
  | handled hbefore halarm hspeaks hdue hqueue _ hnotice =>
    exact hchain.handled hbefore halarm hspeaks hdue hqueue hnotice
  | restarted hmove _ _ _ _ _ => exact (hmove ▸ hleg.move : Move.restart.IsOrdinary).elim

/-! ### Courses between two restarts -/

/-- The chain of an id on a course. -/
theorem Course.calm_chained (h : Course lead zone start legs w) (hstart : start.Fresh)
    (hordinary : ∀ l ∈ legs, l.IsOrdinary)
    (hnew : legs.Pairwise fun later earlier => earlier.Deletes id → ¬ later.Inserts id) :
    w.Calm ∧ Chained zone id legs w := by
  induction h with
  | stay => exact ⟨hstart.toCalm, hstart.chained_nil⟩
  | go _ hproceed ih =>
    obtain ⟨hleg, hlegs⟩ := List.forall_mem_cons.mp hordinary
    obtain ⟨hfirst, hrest⟩ := List.pairwise_cons.mp hnew
    obtain ⟨hcalm, hchain⟩ := ih hlegs hrest
    exact ⟨hcalm.proceed hleg hproceed, hchain.proceed hcalm hleg
      (fun hinserts l hl hdeletes => hfirst l hl hdeletes hinserts) hproceed⟩

/-- **The notices of an alarm form a chain.** Between two restarts, with a clock that does not go
back, away from leap seconds, and as long as no deleted alarm is put back: for every id it is said
at most once to get ready, and then at most once to start now. It is said to get ready only ahead of
the stored start, which is then when the timer is due; it is said to start now only from the stored
start on, and then there is neither a timer nor a fired alarm left. Nothing is said of an alarm that
was deleted. -/
theorem Course.chained (h : Course lead zone start legs w) (hstart : start.Fresh)
    (hordinary : ∀ l ∈ legs, l.IsOrdinary) (id : Int64)
    (hnew : legs.Pairwise fun later earlier => earlier.Deletes id → ¬ later.Inserts id) :
    ((notices zone id legs).reverse.map Notice.isStartNow).Sublist [false, true] ∧
      (∀ l ∈ legs, ∀ name minutes, l.notice? zone id = some (.getReady name minutes) →
        ∃ a, l.before.store.alarms.get? id = some a ∧ l.before.now < a.start ∧
          l.after.due? id = some a.start) ∧
      (∀ l ∈ legs, ∀ name finish, l.notice? zone id = some (.startNow name finish) →
        ∃ a, l.before.store.alarms.get? id = some a ∧ a.start ≤ l.before.now ∧
          l.after.due? id = none ∧ id ∉ l.after.queue) ∧
      legs.Pairwise fun later earlier => earlier.Deletes id → later.notice? zone id = none := by
  refine ⟨(h.calm_chained hstart hordinary hnew).2.shape, ?_⟩
  induction h with
  | stay =>
    exact ⟨fun _ hl => absurd hl List.not_mem_nil, fun _ hl => absurd hl List.not_mem_nil, .nil⟩
  | @go legs w w' m hcourse hproceed ih =>
    obtain ⟨-, hlegs⟩ := List.forall_mem_cons.mp hordinary
    obtain ⟨-, hrest⟩ := List.pairwise_cons.mp hnew
    obtain ⟨hcalm, hchain⟩ := hcourse.calm_chained hstart hlegs hrest
    obtain ⟨hready, hstarted, hgone⟩ := ih hlegs hrest
    have heffect := effect_of_proceed? hcalm.keyed hproceed id
    refine ⟨List.forall_mem_cons.mpr ⟨fun name minutes hnotice => ?_, hready⟩,
      List.forall_mem_cons.mpr ⟨fun name finish hnotice => ?_, hstarted⟩,
      List.pairwise_cons.mpr ⟨fun l hl hdeletes => ?_, hgone⟩⟩
    · obtain ⟨a, ha, hspeaks, hdue, -⟩ := heffect.exists_of_notice hnotice
      rcases Firing.forAlarm_eq_ok_iff.mp hspeaks with ⟨hahead, -⟩ | ⟨-, _, -, hne⟩
      · exact ⟨a, ha, hahead, hdue.trans (if_pos hahead)⟩
      · cases hne
    · obtain ⟨a, ha, hspeaks, hdue, hqueue⟩ := heffect.exists_of_notice hnotice
      rcases Firing.forAlarm_eq_ok_iff.mp hspeaks with ⟨-, hne⟩ | ⟨hstart, -⟩
      · cases hne
      · obtain ⟨hnone, hnot⟩ := hchain.of_queue hqueue
        exact ⟨a, ha, hstart, (hdue.trans (if_neg (not_lt.mpr hstart))).trans hnone, hnot⟩
    · refine Option.eq_none_iff_forall_ne_some.mpr fun notice hnotice => ?_
      obtain ⟨a, ha, -⟩ := heffect.exists_of_notice hnotice
      exact (hchain.stored a ha).2 l hl hdeletes

/-! ### A morning -/

/-- Ten minutes to noon. -/
def tenToNoon : Instant :=
  { Instant.epoch with
    second := 1705319400
    first_le := by decide
    le_last := by decide
    leap_last := by decide }

/-- The washer before its first start is away from leap seconds. -/
theorem calm_laundry : laundry.Calm := by
  refine ⟨founded_laundry.keyed, fun id a ha => ?_, rfl⟩
  obtain ⟨b, hmade, rfl⟩ := founded_laundry.alarm_eq_some_iff.mp ha
  exact (start_keep_le _ (founded_laundry.inReach id b hmade).isLeap_eq).1

/-- The washer is started, a pass finds its run at noon, and the clock is looked at ten minutes to
noon and at noon. -/
theorem chained_laundry :
    ∃ start legs w, start.Fresh ∧ (∀ l ∈ legs, l.IsOrdinary) ∧
      (legs.Pairwise fun later earlier => earlier.Deletes 105 → ¬ later.Inserts 105) ∧
      Course ⟨600000000000⟩ .universal start legs w ∧
      notices .universal 105 legs = [.startNow "Washer" fivePastNoon, .getReady "Washer" 10] ∧
      ((notices .universal 105 legs).reverse.map Notice.isStartNow).Sublist [false, true] ∧
      (∀ l ∈ legs, ∀ name minutes,
        l.notice? .universal 105 = some (.getReady name minutes) →
          ∃ a, l.before.store.alarms.get? 105 = some a ∧ l.before.now < a.start ∧
            l.after.due? 105 = some a.start) ∧
      (∀ l ∈ legs, ∀ name finish,
        l.notice? .universal 105 = some (.startNow name finish) →
          ∃ a, l.before.store.alarms.get? 105 = some a ∧ a.start ≤ l.before.now ∧
            l.after.due? 105 = none ∧ 105 ∉ l.after.queue) ∧
      legs.Pairwise fun later earlier =>
        earlier.Deletes 105 → later.notice? .universal 105 = none := by
  obtain ⟨start, hrestart⟩ : ∃ start, laundry.restart? ⟨600000000000⟩ = some start := ⟨_, rfl⟩
  have hstart := calm_laundry.fresh_of_restart? hrestart
  obtain rfl := Option.some.inj hrestart
  have hstay : Course ⟨600000000000⟩ .universal ((laundry.restart? ⟨600000000000⟩).get rfl) [] _ :=
    .stay
  have hpass := hstay.go (m := .pass (.ok Pass.laundryHistories)) rfl
  have hready := ((hpass.go (m := .clock tenToNoon 0) rfl).go (m := .wake 105) rfl).go
    (m := .dispatch) rfl
  have hstarted := ((hready.go (m := .clock Pass.noon 0) rfl).go (m := .wake 105) rfl).go
    (m := .dispatch) rfl
  refine ⟨_, _, _, hstart, ?ordinary, ?new, hstarted, rfl,
    hstarted.chained hstart ?ordinary 105 ?new⟩
  case ordinary => decide
  case new => decide

end Watch

end Household
