import Household.Proofs.Overlap.Basic

/-!
# What Overlapping Passes Have Done

Each of several overlapping passes does what it does when it is alone: it commits one diff at most,
and after that it tells the scheduler of alarms of this diff and of nothing else. So what a pass has
done can be seen from its stage, and what all of them have done from store and timers: under each
id is what the last deed about it has decided, or what was there at first.

## Main results

* `Pass.Stepped.backed`: what a pass has done by the time it has got to a stage.
* `Overlap.sound_run`: store and timers are what the deeds have made of them.
-/

namespace Household

/-! ### What a deed decides -/

/-- Whether the alarm of an id is stored after a diff, where the diff is about it. -/
def Diff.stored? (k : Int64) (d : Diff) : Option Bool :=
  if k ∈ d.toDelete.map (·.id) then some false
  else if k ∈ d.toInsert.map (·.id) then some true
  else none

/-- What is stored after a diff is what the diff says, or what was stored before. -/
theorem Store.contains_written (s : Store) (d : Diff) (k : Int64) :
    (s.written d).alarms.contains k = (d.stored? k).getD (s.alarms.contains k) := by
  rw [Table.contains, get?_alarms_written, Diff.stored?]
  by_cases hdel : k ∈ d.toDelete.map (·.id)
  · rw [if_pos hdel, if_pos hdel]
    rfl
  · rw [if_neg hdel, if_neg hdel, Option.isSome_or, Option.isSome_map]
    by_cases hins : k ∈ d.toInsert.map (·.id)
    · have hfind : (d.toInsert.reverse.find? (·.id = k)).isSome = true := by
        rw [List.find?_isSome]
        simpa using hins
      rw [if_pos hins, hfind, Bool.true_or]
      rfl
    · have hfind : d.toInsert.reverse.find? (·.id = k) = none := by
        rw [Table.find?_eq_none_iff, List.map_reverse, List.mem_reverse]
        exact hins
      rw [if_neg hins, hfind]
      rfl

namespace Deed

/-- Whether the alarm of an id is stored after a deed, where the deed decides that. -/
def stored? (k : Int64) : Deed → Option Bool
  | .commit diff _ => diff.stored? k
  | .command _ _ => none

/-- The timer of an id after a deed, where the deed is about it. -/
def timer? (k : Int64) : Deed → Option (Option Timer)
  | .commit _ _ => none
  | .command c elapsed => if c.id = k then some (c.timer? elapsed) else none

/-- What is stored after a deed is what the deed decides, or what was stored before. -/
theorem contains_onStore (k : Int64) (deed : Deed) (s : Store) :
    (deed.onStore s).alarms.contains k = (deed.stored? k).getD (s.alarms.contains k) := by
  cases deed with
  | commit diff now => exact s.contains_written diff k
  | command c elapsed => rfl

/-- The timer after a deed is what the deed decides, or what it was before. -/
theorem get?_onTimers (k : Int64) (deed : Deed) (ts : Timers) :
    (deed.onTimers ts).waiting.get? k = (deed.timer? k).getD (ts.waiting.get? k) := by
  cases deed with
  | commit diff now => rfl
  | command c elapsed =>
    rw [onTimers, Timers.get?_obey, timer?]
    split <;> rfl

/-- What is seen after some deeds is what the last one about it decides, or what was seen before. -/
theorem see_foldr {σ β : Type} {on : σ → Deed → σ} (see : σ → β) (decides : Deed → Option β)
    (h : ∀ deed s, see (on s deed) = (decides deed).getD (see s)) (deeds : List Deed) (s : σ) :
    see (deeds.foldr (fun deed s => on s deed) s) = (deeds.findSome? decides).getD (see s) := by
  induction deeds with
  | nil => rfl
  | cons deed deeds ih =>
    rw [List.foldr_cons, h, ih, List.findSome?_cons]
    cases decides deed <;> rfl

end Deed

/-! ### What an intent decides -/

/-- The intent is to set a timer. -/
def Intent.arms : Intent → Bool
  | .arm _ => true
  | .disarm _ => false

/-- The command of an intent leaves a timer if the intent is to set one. -/
theorem Intent.isSome_timer? {now : Instant} {lead : Span} {i : Intent} {c : TimerCommand}
    (h : i.command now lead = .ok c) (elapsed : Int) :
    (c.timer? elapsed).isSome = i.arms := by
  cases i with
  | arm a =>
    obtain ⟨due, -, rfl⟩ := command_arm_eq_ok_iff.mp h
    rfl
  | disarm a =>
    obtain rfl := Except.ok.inj h
    rfl

/-- A diff decides about the ids that its intents are about, and as they do. -/
theorem Diff.stored?_eq_some_iff {d : Diff} (hn : (d.intents.map Intent.id).Nodup) {k : Int64}
    {b : Bool} : d.stored? k = some b ↔ ∃ i ∈ d.intents, i.id = k ∧ i.arms = b := by
  rw [stored?]
  constructor
  · intro h
    split at h
    · next hdel =>
      obtain rfl := Option.some.inj h
      obtain ⟨a, ha, rfl⟩ := List.mem_map.mp hdel
      exact ⟨.disarm a, List.mem_append_right _ (List.mem_map_of_mem ha), rfl, rfl⟩
    · split at h
      · next hins =>
        obtain rfl := Option.some.inj h
        obtain ⟨a, ha, rfl⟩ := List.mem_map.mp hins
        exact ⟨.arm a, List.mem_append_left _ (List.mem_map_of_mem ha), rfl, rfl⟩
      · cases h
  · rintro ⟨i, hi, rfl, rfl⟩
    rw [Pass.map_id_intents, List.nodup_append] at hn
    rcases List.mem_append.mp hi with hi | hi
    · obtain ⟨a, ha, rfl⟩ := List.mem_map.mp hi
      have hins : a.id ∈ d.toInsert.map (·.id) := List.mem_map_of_mem ha
      have hdel : a.id ∉ d.toDelete.map (·.id) := fun h => hn.2.2 _ hins _ h rfl
      exact (if_neg hdel).trans (if_pos hins)
    · obtain ⟨a, ha, rfl⟩ := List.mem_map.mp hi
      exact if_pos (List.mem_map_of_mem ha)

/-! ### What a pass has done -/

namespace Pass

/-- The pass has committed a diff, at this reading of the clock, and has done nothing else but tell
the scheduler of alarms of the diff. No alarm is told of twice. -/
structure Carries (lead : Span) (diff : Diff) (now : Instant) (done : Set Deed) : Prop where
  nodup : (diff.intents.map Intent.id).Nodup
  commit : .commit diff now ∈ done
  deed : ∀ deed ∈ done, deed = .commit diff now ∨
    ∃ i ∈ diff.intents, ∃ c elapsed, i.command now lead = .ok c ∧ deed = .command c elapsed

/-- The scheduler was told of an alarm. -/
def Told (lead : Span) (now : Instant) (done : Set Deed) (i : Intent) : Prop :=
  ∃ c elapsed, i.command now lead = .ok c ∧ .command c elapsed ∈ done

/-- What a pass has done by the time it has got to a stage. -/
def Stage.Backed (lead : Span) (done : Set Deed) : Stage → Prop
  | .fetching => done = ∅
  | .reading _ => done = ∅
  | .committing diff => (diff.intents.map Intent.id).Nodup ∧ done = ∅
  | .arming diff now left =>
    Carries lead diff now done ∧ left ⊆ diff.intents ∧
      ∀ i ∈ diff.intents, i ∈ left ∨ Told lead now done i
  | .ended (.ok diff) =>
    diff.isEmpty = true ∧ done = ∅ ∨
      ∃ now, Carries lead diff now done ∧ ∀ i ∈ diff.intents, Told lead now done i
  | .ended (.error (.range _)) => ∃ diff now, Carries lead diff now done
  | .ended (.error _) => done = ∅

/-- The pass has come to an end, and not because arithmetic went out of range. -/
def Stage.IsDone : Stage → Prop
  | .ended (.error (.range _)) => False
  | .ended _ => True
  | _ => False

variable {lead : Span} {diff : Diff} {now : Instant} {done : Set Deed}

/-- Telling the scheduler of one more alarm of the diff is in keeping with it. -/
theorem Carries.tell (h : Carries lead diff now done) {i : Intent} (hi : i ∈ diff.intents)
    {c : TimerCommand} (hc : i.command now lead = .ok c) (elapsed : Int) :
    Carries lead diff now ({.command c elapsed} ∪ done) := by
  refine ⟨h.nodup, .inr h.commit, ?_⟩
  rintro deed (rfl | hdeed)
  · exact .inr ⟨i, hi, c, elapsed, hc, rfl⟩
  · exact h.deed deed hdeed

/-- What the scheduler was told it was told whatever is done besides. -/
theorem Told.mono {done' : Set Deed} (hsub : done ⊆ done') {i : Intent}
    (h : Told lead now done i) : Told lead now done' i := by
  obtain ⟨c, elapsed, hc, hmem⟩ := h
  exact ⟨c, elapsed, hc, hsub hmem⟩

/-- A pass that carries its diff has committed that diff only. -/
theorem Carries.eq_of_commit_mem (h : Carries lead diff now done) {diff' : Diff} {now' : Instant}
    (hmem : .commit diff' now' ∈ done) : diff' = diff ∧ now' = now := by
  rcases h.deed _ hmem with heq | ⟨_, _, _, _, _, heq⟩
  · obtain ⟨rfl, rfl⟩ := Deed.commit.inj heq
    exact ⟨rfl, rfl⟩
  · cases heq

/-- What is told about a timer carries out an intent of the diff. -/
theorem Carries.exists_intent (h : Carries lead diff now done) {deed : Deed} (hmem : deed ∈ done)
    {k : Int64} {t : Option Timer} (ht : deed.timer? k = some t) :
    ∃ i ∈ diff.intents, i.id = k ∧
      ∃ c elapsed, i.command now lead = .ok c ∧ t = c.timer? elapsed := by
  rcases h.deed deed hmem with rfl | ⟨i, hi, c, elapsed, hc, rfl⟩
  · cases ht
  · rw [Deed.timer?] at ht
    split at ht
    · next hid =>
      obtain rfl := Option.some.inj ht
      exact ⟨i, hi, (Intent.id_of_command hc).symm.trans hid, c, elapsed, hc, rfl⟩
    · cases ht

/-- What the scheduler was told of an alarm is a deed about its timer. -/
theorem Told.exists_timer? {i : Intent} (h : Told lead now done i) :
    ∃ deed ∈ done, (deed.timer? i.id).isSome = true := by
  obtain ⟨c, elapsed, hc, hmem⟩ := h
  refine ⟨_, hmem, ?_⟩
  rw [Deed.timer?, if_pos (Intent.id_of_command hc)]
  rfl

/-- **A step is backed by what is done in it.** -/
theorem Stepped.backed {view : View} {store store' : Store} {stage stage' : Stage}
    {cs : List TimerCommand} (h : Stepped view store stage stage' store' cs) (hk : store.Keyed)
    (elapsed : Int) (hbacked : stage.Backed view.lead done) :
    stage'.Backed view.lead ({deed | deed ∈ Deed.ofStep elapsed stage stage' cs} ∪ done) := by
  have hnothing : {deed : Deed | deed ∈ ([] : List TimerCommand).map (Deed.command · elapsed)}
      ∪ done = done := by simp
  have hkept : ∀ P : Set Deed → Prop, P done →
      P ({deed | deed ∈ ([] : List TimerCommand).map (Deed.command · elapsed)} ∪ done) := by
    intro P hdone
    rwa [hnothing]
  cases h with
  | unserved _ => exact hnothing.trans hbacked
  | served _ => exact hnothing.trans hbacked
  | unread _ => exact hnothing.trans hbacked
  | settled _ hempty => exact .inl ⟨hempty, hnothing.trans hbacked⟩
  | decided hall _ => exact ⟨nodup_map_id_intents hk hall _, hnothing.trans hbacked⟩
  | refused _ => exact hnothing.trans hbacked.2
  | @committed diff store' happly =>
    obtain ⟨hnodup, rfl⟩ := hbacked
    refine ⟨⟨hnodup, .inl (List.mem_singleton_self _), ?_⟩, List.Subset.refl _,
      fun i hi => .inl hi⟩
    rintro deed (hdeed | hdeed)
    · exact .inl (List.mem_singleton.mp hdeed)
    · exact absurd hdeed (Set.notMem_empty deed)
  | @told diff now i left c hcommand =>
    obtain ⟨hcarries, hsub, htold⟩ := hbacked
    have hone : {deed | deed ∈ Deed.ofStep elapsed (.arming diff now (i :: left))
        (.arming diff now left) [c]} ∪ done = {.command c elapsed} ∪ done := by
      simp [Deed.ofStep]
    rw [hone]
    obtain ⟨hi, hleft⟩ := List.cons_subset.mp hsub
    refine ⟨hcarries.tell hi hcommand elapsed, hleft, fun j hj => ?_⟩
    rcases htold j hj with hj | hj
    · rcases List.mem_cons.mp hj with rfl | hj
      · exact .inr ⟨c, elapsed, hcommand, .inl rfl⟩
      · exact .inl hj
    · exact .inr (hj.mono Set.subset_union_right)
  | @stuck diff now i left e _ => exact ⟨diff, now, hkept _ hbacked.1⟩
  | @done diff now =>
    obtain ⟨hcarries, -, htold⟩ := hbacked
    have htold' : ∀ i ∈ diff.intents, Told view.lead now done i :=
      fun i hi => (htold i hi).resolve_left List.not_mem_nil
    exact .inr (hkept (fun d => ∃ now, Carries view.lead diff now d ∧
      ∀ i ∈ diff.intents, Told view.lead now d i) ⟨now, hcarries, htold'⟩)
  | @ended result => exact hkept (fun d => Stage.Backed view.lead d (.ended result)) hbacked

/-- A pass that has come to an end has done nothing, or has told the scheduler of all alarms of the
diff that it has committed. -/
theorem Stage.IsDone.eq_empty_or {stage : Stage} (h : stage.IsDone)
    (hbacked : stage.Backed lead done) :
    done = ∅ ∨ ∃ diff now, Carries lead diff now done ∧
      ∀ i ∈ diff.intents, Told lead now done i := by
  cases stage with
  | ended result =>
    cases result with
    | ok diff =>
      rcases hbacked with ⟨-, hdone⟩ | ⟨now, hcarries, htold⟩
      · exact .inl hdone
      · exact .inr ⟨diff, now, hcarries, htold⟩
    | error e =>
      cases e with
      | range e => exact h.elim
      | source e => exact .inl hbacked
      | store e => exact .inl hbacked
  | fetching => exact h.elim
  | reading deviceTasks => exact h.elim
  | committing diff => exact h.elim
  | arming diff now left => exact h.elim

/-- Store and timers are changed in a step by what is done in it. -/
theorem Stepped.made {view : View} {store store' : Store} {stage stage' : Stage}
    {cs : List TimerCommand} (h : Stepped view store stage stage' store' cs) (elapsed : Int) :
    store' = (Deed.ofStep elapsed stage stage' cs).foldr (fun deed s => deed.onStore s) store ∧
      ∀ ts : Timers, cs.foldl (Timers.obey elapsed) ts =
        (Deed.ofStep elapsed stage stage' cs).foldr (fun deed ts => deed.onTimers ts) ts := by
  cases h with
  | committed happly => exact ⟨Store.eq_written_of_apply happly, fun _ => rfl⟩
  | _ => exact ⟨rfl, fun _ => rfl⟩

/-- A step keeps every alarm under its own id. -/
theorem Stepped.keyed {view : View} {store store' : Store} {stage stage' : Stage}
    {cs : List TimerCommand} (h : Stepped view store stage stage' store' cs) (hk : store.Keyed) :
    store'.Keyed := by
  cases h with
  | committed happly =>
    rw [Store.eq_written_of_apply happly]
    exact hk.written _
  | _ => exact hk

end Pass

/-! ### What all passes have done -/

namespace Overlap

variable {ι : Type}

/-- Whether the alarm of an id is stored, where the passes have decided that. -/
def stored? (o : Overlap ι) (k : Int64) : Option Bool :=
  o.deeds.findSome? (·.2.stored? k)

/-- The timer of an id, where the passes have told the scheduler about it. -/
def timer? (o : Overlap ι) (k : Int64) : Option (Option Timer) :=
  o.deeds.findSome? (·.2.timer? k)

/-- Some pass has decided whether the alarm of an id is stored. -/
def Decided (o : Overlap ι) (k : Int64) (b : Bool) : Prop :=
  ∃ i diff now, (i, Deed.commit diff now) ∈ o.deeds ∧ diff.stored? k = some b

/-- The last decision is one that some pass has made. -/
theorem decided_of_stored? {o : Overlap ι} {k : Int64} {b : Bool}
    (h : o.stored? k = some b) : o.Decided k b := by
  obtain ⟨⟨i, deed⟩, hdeed, hdecides⟩ := List.exists_of_findSome?_eq_some h
  cases deed with
  | commit diff now => exact ⟨i, diff, now, hdeed, hdecides⟩
  | command c elapsed => cases hdecides

/-- There is a last decision if some pass has made one. -/
theorem Decided.exists_stored? {o : Overlap ι} {k : Int64} {b : Bool} (h : o.Decided k b) :
    ∃ b', o.stored? k = some b' := by
  obtain ⟨i, diff, now, hmem, hdecides⟩ := h
  refine Option.isSome_iff_exists.mp (List.findSome?_isSome_iff.mpr ?_)
  exact ⟨_, hmem, Option.isSome_iff_exists.mpr ⟨b, hdecides⟩⟩

/-- Stages, store and timers are what the deeds have made of them, from a store and timers on. -/
structure Sound (lead : Span) (store : Store) (timers : Timers) (o : Overlap ι) : Prop where
  keyed : o.store.Keyed
  backed : ∀ i, (o.stage i).Backed lead (o.doneBy i)
  stored : ∀ k, o.store.alarms.contains k = (o.stored? k).getD (store.alarms.contains k)
  timer : ∀ k, o.timers.waiting.get? k = (o.timer? k).getD (timers.waiting.get? k)

variable {lead : Span} {store : Store} {timers : Timers} {o : Overlap ι}

/-- Passes that are about to begin have done nothing. -/
theorem sound_begin (hk : store.Keyed) : Sound lead store timers (begin ι store timers) := by
  refine ⟨hk, fun i => ?_, fun _ => rfl, fun _ => rfl⟩
  exact Set.eq_empty_iff_forall_notMem.mpr fun _ => List.not_mem_nil

/-- What a database refuses is no matter of what has been done. -/
theorem Sound.trouble (h : Sound lead store timers o) (outage? : Option Outage)
    (refusedWrites refusedDeletes : List Int64) :
    Sound lead store timers
      { o with store := o.store.troubled outage? refusedWrites refusedDeletes } := by
  refine ⟨h.keyed.troubled _ _ _, h.backed, fun k => ?_, h.timer⟩
  rw [Store.alarms_troubled]
  exact h.stored k

section Runs

variable [DecidableEq ι]

/-- The step of a pass makes of store and timers what is done in it. -/
theorem Sound.turn (h : Sound lead store timers o) (i : ι) {view : Pass.View}
    (hlead : view.lead = lead) (elapsed : Int) :
    Sound lead store timers (o.turn i view elapsed) := by
  subst hlead
  have hstep := Pass.stepped_step view o.store (o.stage i)
  obtain ⟨hstore, htimers⟩ := hstep.made elapsed
  refine ⟨hstep.keyed h.keyed, forall_stage_turn ?_ (fun j hj => ?_) elapsed, fun k => ?_,
    fun k => ?_⟩
  · rw [doneBy_turn_self]
    exact hstep.backed h.keyed elapsed (h.backed i)
  · rw [doneBy_turn_ne o hj]
    exact h.backed j
  · have hsee := Deed.see_foldr (fun s : Store => s.alarms.contains k) (Deed.stored? k)
      (Deed.contains_onStore k) (Deed.ofStep elapsed (o.stage i)
        (Pass.step view o.store (o.stage i)).1 (Pass.step view o.store (o.stage i)).2.2) o.store
    rw [← hstore, h.stored k, ← Option.getD_or] at hsee
    rw [stored?, deeds_turn, List.findSome?_append, List.findSome?_map]
    exact hsee
  · have hsee := Deed.see_foldr (fun ts : Timers => ts.waiting.get? k) (Deed.timer? k)
      (Deed.get?_onTimers k) (Deed.ofStep elapsed (o.stage i)
        (Pass.step view o.store (o.stage i)).1 (Pass.step view o.store (o.stage i)).2.2) o.timers
    rw [← htimers, h.timer k, ← Option.getD_or] at hsee
    rw [timer?, deeds_turn, List.findSome?_append, List.findSome?_map]
    exact hsee

/-- **Store and timers are what the deeds have made of them.** -/
theorem sound_run (hk : store.Keyed) (moves : List (Move ι)) :
    Sound lead store timers ((begin ι store timers).run lead moves) := by
  refine run_induction (Q := fun _ => True) (fun o m _ h => ?_) (sound_begin hk) fun _ _ => trivial
  cases m with
  | turn i fetched now elapsed => exact h.turn i rfl elapsed
  | trouble outage? refusedWrites refusedDeletes => exact h.trouble _ _ _

end Runs

/-! ### When all passes have come to an end -/

/-- A command carries out an intent of a diff that its pass has committed. -/
theorem Sound.exists_intent (h : Sound lead store timers o) (hdone : ∀ i, (o.stage i).IsDone)
    {k : Int64} {t : Option Timer} (ht : o.timer? k = some t) :
    ∃ i diff now, (i, Deed.commit diff now) ∈ o.deeds ∧ (diff.intents.map Intent.id).Nodup ∧
      ∃ intent ∈ diff.intents, intent.id = k ∧
        ∃ c elapsed, intent.command now lead = .ok c ∧ t = c.timer? elapsed := by
  obtain ⟨⟨i, deed⟩, hdeed, hdecides⟩ := List.exists_of_findSome?_eq_some ht
  rcases (hdone i).eq_empty_or (h.backed i) with hnothing | ⟨diff, now, hcarries, -⟩
  · exact absurd (show deed ∈ o.doneBy i from hdeed) (hnothing ▸ Set.notMem_empty deed)
  · exact ⟨i, diff, now, hcarries.commit, hcarries.nodup, hcarries.exists_intent hdeed hdecides⟩

/-- The scheduler was told of all that the passes have decided. -/
theorem Sound.exists_timer? (h : Sound lead store timers o) (hdone : ∀ i, (o.stage i).IsDone)
    {k : Int64} {b : Bool} (hdecided : o.Decided k b) : ∃ t, o.timer? k = some t := by
  obtain ⟨i, diff, now, hmem, hdecides⟩ := hdecided
  rcases (hdone i).eq_empty_or (h.backed i) with hnothing | ⟨diff', now', hcarries, htold⟩
  · exact absurd (show _ ∈ o.doneBy i from hmem) (hnothing ▸ Set.notMem_empty _)
  · obtain ⟨rfl, rfl⟩ := hcarries.eq_of_commit_mem hmem
    obtain ⟨intent, hintent, rfl, -⟩ := (Diff.stored?_eq_some_iff hcarries.nodup).mp hdecides
    obtain ⟨deed, hdeed, hdecides⟩ := (htold intent hintent).exists_timer?
    refine Option.isSome_iff_exists.mp (List.findSome?_isSome_iff.mpr ?_)
    exact ⟨_, hdeed, hdecides⟩

/-- The passes over the laundry come to an end. -/
theorem isDone_laundry (i : Bool) : (laundryOverlap.stage i).IsDone := by
  cases i <;> exact trivial

end Overlap

end Household
