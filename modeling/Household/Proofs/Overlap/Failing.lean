import Household.Proofs.Overlap.Basic
import Household.Proofs.Remote.Fetching

/-!
# Passes That Fail

A pass that the server or the store fails has not committed its diff, and only what comes after the
commit leaves anything behind. What its database had carried out before it refused a statement goes
with the transaction. So everything is as it was, and another pass does what this one would have
done.

## Main results

* `Pass.Cause`: what can fail a pass.
* `Overlap.untouched_run_of_failure`: a pass that fails has changed nothing, and another one has the
  effect that it would have had.
-/

namespace Household

namespace Pass

/-! ### What can fail a pass -/

/-- What can fail a pass over what is served and stored, with the answers in this order. -/
inductive Cause (served : Served) (order : List Request) (store : Store) : Failure → Prop
  /-- A request failed, and none before it. -/
  | request {before after : List Request} {r : Request} {e : SourceError}
      (hsplit : order = before ++ r :: after) (hfailed : served.failure? r = some e)
      (hfirst : ∀ r' ∈ before, served.failure? r' = none) :
      Cause served order store (.source e)
  /-- The stored alarms could not be read. -/
  | unread {s : Store} {e : StoreError} (hs : store.Alike s) (hall : s.all = .error e) :
      Cause served order store (.store e)
  /-- The database refused a statement of the diff after it had carried out those before it. -/
  | refused {db mid : Database} {histories : List DeviceTask} {before after : List Statement}
      {statement : Statement} {e : StoreError} (hdb : store.Alike (.database db))
      (hserved : served.histories = .ok histories)
      (hsplit : (Diff.reconcile histories store.alarms.values).statements =
        before ++ statement :: after)
      (hbefore : db.run? before = .ok mid) (hrefused : mid.execute? statement = .error e) :
      Cause served order store (.store e)

/-! ### Steps without effect -/

/-- A pass that has got there has committed nothing. -/
def Stage.IsFruitless : Stage → Prop
  | .fetching => True
  | .reading _ => True
  | .committing _ => True
  | .arming _ _ _ => False
  | .ended (.ok _) => False
  | .ended (.error f) => f.isRetryable = true

/-- What led a pass over what is served and stored to this stage. -/
def Stage.Explained (served : Served) (order : List Request) (store : Store) : Stage → Prop
  | .fetching => True
  | .reading histories => served.histories = .ok histories
  | .committing diff => ∃ histories, served.histories = .ok histories ∧
      diff = Diff.reconcile histories store.alarms.values
  | .arming _ _ _ => True
  | .ended (.ok _) => True
  | .ended (.error f) => f.isRetryable = true → Cause served order store f

variable {view : View} {store s s' : Store} {stage stage' : Stage} {cs : List TimerCommand}

/-- A step of a pass that has committed nothing so far, and still has not, does nothing. -/
theorem Stepped.fruitless (h : Stepped view s stage stage' s' cs) (hf : stage'.IsFruitless)
    (elapsed : Int) :
    stage.IsFruitless ∧ s' = s ∧ cs = [] ∧ Deed.ofStep elapsed stage stage' cs = [] := by
  cases h with
  | unserved _ => exact ⟨trivial, rfl, rfl, rfl⟩
  | served _ => exact ⟨trivial, rfl, rfl, rfl⟩
  | unread _ => exact ⟨trivial, rfl, rfl, rfl⟩
  | settled _ _ => exact ⟨trivial, rfl, rfl, rfl⟩
  | decided _ _ => exact ⟨trivial, rfl, rfl, rfl⟩
  | refused _ => exact ⟨trivial, rfl, rfl, rfl⟩
  | committed _ => exact hf.elim
  | told _ => exact hf.elim
  | stuck _ => cases hf
  | done => exact hf.elim
  | ended => exact ⟨hf, rfl, rfl, rfl⟩

/-- **Each step of a pass has an explanation.** -/
theorem Stepped.explained {served : Served} {order : List Request} (horder : ∀ r, r ∈ order)
    (h : Stepped view s stage stage' s' cs) (hview : view.fetched = served.awaited order)
    (hs : stage.IsFruitless → store.Alike s) (hexplained : stage.Explained served order store) :
    stage'.Explained served order store := by
  cases h with
  | unserved hfetched =>
    intro _
    obtain ⟨before, r, after, hsplit, hfailed, hfirst⟩ :=
      (Served.awaited_eq_error_iff horder).mp (hview.symm.trans hfetched)
    exact .request hsplit hfailed hfirst
  | served hfetched => exact Served.awaited_eq_ok_iff.mp (hview.symm.trans hfetched)
  | unread hall => exact fun _ => .unread (hs trivial) hall
  | settled _ _ => trivial
  | @decided histories stored hall _ =>
    refine ⟨histories, hexplained, ?_⟩
    rw [← (Store.all_eq_ok_iff.mp hall).2, (hs trivial).alarms_eq]
  | @refused diff e happly =>
    intro _
    obtain ⟨histories, hserved, rfl⟩ := hexplained
    cases s with
    | memory alarms => cases happly
    | database db =>
      rw [Store.apply, Store.commit] at happly
      cases hrun : db.run? (Diff.reconcile histories store.alarms.values).statements with
      | ok db' =>
        rw [hrun] at happly
        cases happly
      | error e' =>
        rw [hrun] at happly
        obtain rfl := Except.error.inj happly
        obtain ⟨before, statement, after, mid, hsplit, hbefore, hrefused⟩ :=
          Database.run?_eq_error_iff.mp hrun
        exact .refused (hs trivial) hserved hsplit hbefore hrefused
  | committed _ => trivial
  | told _ => trivial
  | stuck _ => exact fun h => absurd h (by simp [Failure.isRetryable])
  | done => trivial
  | ended => exact hexplained

end Pass

/-! ### Runs of a pass that is alone -/

namespace Overlap

variable {served : Served} {order : List Request} {lead : Span} {store : Store} {timers : Timers}

/-- Everything is as it was, and nothing has been done. -/
structure Untouched {ι : Type} (store : Store) (timers : Timers) (o : Overlap ι) : Prop where
  store : store.Alike o.store
  timers : o.timers = timers
  deeds : o.deeds = []

/-- The one pass there is has an explanation for the stage it has got to, and has changed nothing as
long as it has committed nothing. -/
structure Accounted (served : Served) (order : List Request) (store : Store) (timers : Timers)
    (o : Overlap Unit) : Prop where
  untouched : (o.stage ()).IsFruitless → Untouched store timers o
  explained : (o.stage ()).Explained served order store

/-- A pass that is alone can be accounted for. -/
theorem accounted_run (horder : ∀ r, r ∈ order) {moves : List (Move Unit)}
    (hmoves : ∀ i fetched now elapsed, .turn i fetched now elapsed ∈ moves →
      fetched = served.awaited order) :
    Accounted served order store timers ((begin Unit store timers).run lead moves) := by
  have hbegin : Accounted served order store timers (begin Unit store timers) :=
    ⟨fun _ => ⟨.refl store, rfl, rfl⟩, trivial⟩
  refine run_induction (Q := fun m => ∀ i fetched now elapsed, m = .turn i fetched now elapsed →
    fetched = served.awaited order) (fun o m hm h => ?_) hbegin ?_
  · cases m with
    | turn i fetched now elapsed =>
      have hview : fetched = served.awaited order := hm i fetched now elapsed rfl
      have hstep := Pass.stepped_step ⟨fetched, now, lead⟩ o.store (o.stage i)
      refine ⟨fun hf => ?_, ?_⟩
      · rw [move, stage_turn_self] at hf
        obtain ⟨hbefore, hstore, hcs, hdeeds⟩ := hstep.fruitless hf elapsed
        have huntouched := h.untouched hbefore
        refine ⟨?_, ?_, ?_⟩
        · rw [move, store_turn, hstore]
          exact huntouched.store
        · rw [move, timers_turn, hcs]
          exact huntouched.timers
        · rw [move, deeds_turn, hdeeds]
          exact huntouched.deeds
      · rw [move, stage_turn_self]
        exact hstep.explained horder hview (fun hf => (h.untouched hf).store) h.explained
    | trouble outage? refusedWrites refusedDeletes =>
      refine ⟨fun hf => ?_, h.explained⟩
      have huntouched := h.untouched hf
      exact ⟨huntouched.store.troubled _ _ _, huntouched.timers, huntouched.deeds⟩
  · rintro m hm i fetched now elapsed rfl
    exact hmoves i fetched now elapsed hm

/-- **A pass that fails has changed nothing.** What failed it is a request, the reading of the store
or a statement of the diff. Another pass, once the server answers and whatever the database refuses
then, has the effect that it would have had in place of the first one. -/
theorem untouched_run_of_failure (horder : ∀ r, r ∈ order) {moves : List (Move Unit)}
    (hmoves : ∀ i fetched now elapsed, .turn i fetched now elapsed ∈ moves →
      fetched = served.awaited order) {f : Failure}
    (hend : ((begin Unit store timers).run lead moves).stage () = .ended (.error f))
    (hretry : f.isRetryable = true) :
    let after := (begin Unit store timers).run lead moves
    Pass.Cause served order store f ∧ Untouched store timers after ∧
      ∀ outage? refusedWrites refusedDeletes devices tasks events order' now elapsed,
        let served' : Served := ⟨.ok devices, .ok tasks, .ok events⟩
        let report := Pass.run ⟨served'.histories, now, lead⟩
          (store.troubled outage? refusedWrites refusedDeletes)
        let again := begin Unit (after.store.troubled outage? refusedWrites refusedDeletes)
          after.timers
        ∃ n, EndsWith report timers elapsed () (again.run lead
          (List.replicate n (.turn () (served'.awaited order') now elapsed))) := by
  intro after
  have haccounted : Accounted served order store timers after := accounted_run horder hmoves
  have huntouched : Untouched store timers after := by
    refine haccounted.untouched ?_
    rw [hend]
    exact hretry
  have hexplained := haccounted.explained
  rw [hend] at hexplained
  refine ⟨hexplained hretry, huntouched, fun outage? refusedWrites refusedDeletes devices tasks
    events order' now elapsed => ?_⟩
  intro served' report again
  have hagain : again = begin Unit (store.troubled outage? refusedWrites refusedDeletes)
      timers := congrArg₂ (begin Unit) (huntouched.store.troubled_eq _ _ _) huntouched.timers
  have hserved : served'.awaited order' = served'.histories := Served.awaited_eq_ok_iff.mpr rfl
  have hstage : again.stage () = .fetching := rfl
  rw [hserved]
  rw [hagain] at hstage ⊢
  exact exists_endsWith lead served'.histories now elapsed hstage

/-! ### A refused deletion -/

/-- What is served for the laundry. -/
def laundryServed : Served :=
  ⟨.ok Pass.laundryDevices, .ok Pass.laundryTasks, .ok Pass.laundryEvents⟩

/-- The order in which the requests for the laundry are answered. -/
def laundryOrder : List Request := [.events, .devices, .tasks]

/-- A pass over the laundry has read the store when the database comes to refuse the deletion that
is to follow the insertion. -/
def refusedMoves : List (Move Unit) :=
  List.replicate 2 (.turn () (.ok Pass.laundryHistories) .epoch 0) ++
    [.trouble none [] [7], .turn () (.ok Pass.laundryHistories) .epoch 0]

/-- How far the pass over the laundry gets. -/
def refusedOverlap : Overlap Unit :=
  (begin Unit (.database Pass.laundryDatabase) laundryTimers).run ⟨600 * 1000000000⟩ refusedMoves

/-- The refused deletion leaves the laundry as it was, and another pass has the effect of the first
one at noon. -/
theorem untouched_run_of_failure_laundry :
    (∀ r, r ∈ laundryOrder) ∧
      (∀ i fetched now elapsed, .turn i fetched now elapsed ∈ refusedMoves →
        fetched = laundryServed.awaited laundryOrder) ∧
      refusedOverlap.stage () = .ended (.error (.store (.query .refused))) ∧
      (Failure.store (.query .refused)).isRetryable = true ∧
      Untouched (.database Pass.laundryDatabase) laundryTimers refusedOverlap ∧
      ∃ n, EndsWith (Pass.run (Pass.laundryView Pass.noon) (.database Pass.laundryDatabase))
        laundryTimers 0 ()
        ((begin Unit (refusedOverlap.store.troubled none [] []) refusedOverlap.timers).run
          ⟨600 * 1000000000⟩ (List.replicate n
            (.turn () (laundryServed.awaited laundryOrder) Pass.noon 0))) := by
  have horder : ∀ r, r ∈ laundryOrder := by
    intro r
    cases r <;> decide
  have hserved : laundryServed.awaited laundryOrder = .ok Pass.laundryHistories :=
    congrArg Except.ok Pass.join_laundry
  have hmoves : ∀ i fetched now elapsed, .turn i fetched now elapsed ∈ refusedMoves →
      fetched = laundryServed.awaited laundryOrder := by
    intro i fetched now elapsed hmem
    rw [hserved]
    simp only [refusedMoves, List.mem_append, List.mem_replicate, List.mem_cons, Move.turn.injEq,
      reduceCtorEq, List.not_mem_nil, or_false, false_or] at hmem
    rcases hmem with ⟨-, -, hfetched, -⟩ | ⟨-, hfetched, -⟩ <;> exact hfetched
  have hend : refusedOverlap.stage () = .ended (.error (.store (.query .refused))) := rfl
  obtain ⟨-, huntouched, hagain⟩ := untouched_run_of_failure horder hmoves hend rfl
  exact ⟨horder, hmoves, hend, rfl, huntouched, hagain none [] [] Pass.laundryDevices
    Pass.laundryTasks Pass.laundryEvents laundryOrder Pass.noon 0⟩

end Overlap

end Household
