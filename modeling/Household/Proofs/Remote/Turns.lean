import Household.Remote.Traffic
import Mathlib.Algebra.GroupWithZero.Nat
import Mathlib.Data.List.Induction

/-!
# Turns of Errands at the Same Time

The turns of several errands come in any order. Each of them leaves everything as it is, because its
errand has ended or has to wait, or brings all errands together closer to their end. Only an errand
that logs in keeps others waiting, so in rounds in which every errand has a turn all of them end. No
errand sends its call more than twice.

## Main results

* `turn_eq_or_rank_lt`: what a turn does to the turns that are left.
* `rank_run_flatten_le`: in as many rounds as there are turns left all errands end.
* `countP_asks_le_two`: an errand sends its call at most twice.
* `exists_run_eq_follow`: this is about what errands do when they get their turns.
-/

namespace Household.Remote

variable {e : Errand} {client : Client} {traffic : Traffic} {i : Nat} {t : Turn}

/-! ### Runs and visits -/

/-- The call logs in. -/
def Call.isLogin (c : Call) : Bool :=
  c.path = loginPath

@[simp] theorem isLogin_loginCall (c : Credentials) : (loginCall c).isLogin = true := rfl

@[simp] theorem isLogin_call (e : Errand) (token : String) : (e.call token).isLogin = false := by
  cases e <;> rfl

/-- Who has sent the call that logs in is logging in. -/
theorem Stage.any_isLogin_call? (stage : Stage e) :
    stage.call?.any (·.isLogin) = stage.isLoggingIn := by
  cases stage <;> simp [call?, isLoggingIn]

/-- A turn of the errand at a place, with the traffic before it. -/
structure Visit where
  traffic : Traffic
  place : Nat
  turn : Turn

/-- The call that an errand sends in its turn. -/
def Visit.sent? (client : Client) (v : Visit) : Option Call :=
  (v.traffic.turn client v.place v.turn).call? v.place

/-- The errand logs in. -/
def Visit.logsIn (client : Client) (v : Visit) : Bool :=
  (v.sent? client).any (·.isLogin)

/-- The errand sends its own call. -/
def Visit.asks (client : Client) (v : Visit) : Bool :=
  (v.sent? client).any (!·.isLogin)

namespace Traffic

/-- Turns one after the other, each of the errand at its place. -/
def run (client : Client) (ts : List (Nat × Turn)) (traffic : Traffic) : Traffic :=
  ts.foldl (fun traffic t => traffic.turn client t.1 t.2) traffic

/-- Turns one after the other, each with the traffic before it. -/
def visits (client : Client) : List (Nat × Turn) → Traffic → List Visit
  | [], _ => []
  | t :: ts, traffic => ⟨traffic, t.1, t.2⟩ :: visits client ts (traffic.turn client t.1 t.2)

/-- What comes of some turns and then of some more. -/
theorem run_append (client : Client) (ts us : List (Nat × Turn)) (traffic : Traffic) :
    traffic.run client (ts ++ us) = (traffic.run client ts).run client us :=
  List.foldl_append

/-- A first turn comes before the others. -/
theorem visits_cons (client : Client) (t : Nat × Turn) (ts : List (Nat × Turn))
    (traffic : Traffic) :
    traffic.visits client (t :: ts) =
      ⟨traffic, t.1, t.2⟩ :: (traffic.turn client t.1 t.2).visits client ts :=
  rfl

/-- A last turn comes after the others. -/
theorem visits_append_singleton (client : Client) (ts : List (Nat × Turn)) (t : Nat × Turn)
    (traffic : Traffic) :
    traffic.visits client (ts ++ [t]) =
      traffic.visits client ts ++ [⟨traffic.run client ts, t.1, t.2⟩] := by
  induction ts generalizing traffic with
  | nil => rfl
  | cons u ts ih => exact congrArg (_ :: ·) (ih _)

/-- What errands come to is where their turns lead. -/
theorem exists_run_eq_follow {σ : Type} (client : Client) (outside : Option Call → σ → Turn × σ)
    (order : List Nat) (traffic : Traffic) (world : σ) :
    ∃ ts : List (Nat × Turn), ts.map Prod.fst = order ∧
      traffic.run client ts = (follow client outside order traffic world).1 := by
  induction order generalizing traffic world with
  | nil => exact ⟨[], rfl, rfl⟩
  | cons i order ih =>
    obtain ⟨ts, hplaces, hrun⟩ :=
      ih (traffic.turn client i (outside (traffic.call? i) world).1)
        (outside (traffic.call? i) world).2
    exact ⟨(i, _) :: ts, congrArg (i :: ·) hplaces, hrun⟩

/-- The turn of an errand that is not there changes nothing. -/
theorem turn_of_getElem?_eq_none (h : traffic.errands[i]? = none) (t : Turn) :
    traffic.turn client i t = traffic := by
  rw [turn, h]

/-- The turn of an errand. -/
theorem turn_of_getElem?_eq_some {stage : Stage e} (h : traffic.errands[i]? = some ⟨e, stage⟩)
    (t : Turn) :
    traffic.turn client i t =
      ⟨(stage.advance client t traffic.shared).2,
        traffic.errands.set i ⟨e, (stage.advance client t traffic.shared).1⟩⟩ := by
  rw [turn, h]

/-- The errand at a place after its turn. -/
theorem getElem?_turn_self (client : Client) {stage : Stage e}
    (h : traffic.errands[i]? = some ⟨e, stage⟩) (t : Turn) :
    (traffic.turn client i t).errands[i]? =
      some ⟨e, (stage.advance client t traffic.shared).1⟩ := by
  rw [turn_of_getElem?_eq_some h]
  exact List.getElem?_set_self (List.getElem?_eq_some_iff.mp h).1

/-! ### Turns that are left -/

/-- An upper bound for the turns that are left, but for those in which errands wait. -/
def rank (traffic : Traffic) : Nat :=
  (traffic.errands.map fun errand => errand.2.rank).sum

end Traffic

/-- Less at one place of a list is less in all. -/
theorem sum_map_set_lt {α : Type} (f : α → Nat) {l : List α} {a b : α} (h : l[i]? = some a)
    (hlt : f b < f a) : ((l.set i b).map f).sum < (l.map f).sum := by
  induction l generalizing i with
  | nil => cases h
  | cons c l ih =>
    cases i with
    | zero =>
      obtain rfl := Option.some.inj h
      simp only [List.set_cons_zero, List.map_cons, List.sum_cons]
      omega
    | succ i =>
      have := ih (i := i) h
      simp only [List.set_cons_succ, List.map_cons, List.sum_cons]
      omega

/-- An errand that has ended or waits stays as it is in its turn. -/
theorem Stage.advance_of_waits {stage : Stage e} {shared : Shared}
    (h : stage.waits shared = true ∨ stage.rank = 0) :
    stage.advance client t shared = (stage, shared) := by
  rcases h with hwaits | hrank
  · cases stage with
    | queuing rejected =>
      have hflag : shared.loggingIn = true := hwaits
      rw [advance, if_pos hflag]
    | _ => cases hwaits
  · obtain ⟨result, rfl⟩ := Stage.rank_eq_zero_iff.mp hrank
    rfl

namespace Traffic

/-- The errand at a place has ended or waits, or there is none. -/
def IsIdle (traffic : Traffic) (i : Nat) : Prop :=
  ∀ e (stage : Stage e), traffic.errands[i]? = some ⟨e, stage⟩ →
    stage.waits traffic.shared = true ∨ stage.rank = 0

/-- **A turn leaves everything as it is, or fewer turns are left after it.** -/
theorem turn_eq_or_rank_lt (client : Client) (traffic : Traffic) (i : Nat) (t : Turn) :
    (traffic.turn client i t = traffic ∧ traffic.IsIdle i) ∨
      (traffic.turn client i t).rank < traffic.rank := by
  cases hplace : traffic.errands[i]? with
  | none =>
    exact .inl ⟨turn_of_getElem?_eq_none hplace t, fun _ _ h => nomatch hplace.symm.trans h⟩
  | some errand =>
    obtain ⟨e, stage⟩ := errand
    by_cases hidle : stage.waits traffic.shared = true ∨ stage.rank = 0
    · refine .inl ⟨?_, fun e' stage' h => ?_⟩
      · rw [turn_of_getElem?_eq_some hplace, Stage.advance_of_waits hidle]
        dsimp only
        obtain ⟨hlt, heq⟩ := List.getElem?_eq_some_iff.mp hplace
        rw [← heq, List.set_getElem_self]
      · cases Option.some.inj (hplace.symm.trans h)
        exact hidle
    · rw [not_or, Bool.not_eq_true] at hidle
      have hrank := Stage.rank_advance client t traffic.shared stage hidle.1
      rw [turn_of_getElem?_eq_some hplace, rank, rank]
      refine .inr (sum_map_set_lt (fun errand => errand.2.rank) hplace ?_)
      dsimp only
      omega

/-- Turns leave everything as it is, or fewer turns are left after them. -/
theorem run_eq_or_rank_lt (client : Client) (ts : List (Nat × Turn)) (traffic : Traffic) :
    (traffic.run client ts = traffic ∧ ∀ t ∈ ts, traffic.IsIdle t.1) ∨
      (traffic.run client ts).rank < traffic.rank := by
  induction ts generalizing traffic with
  | nil => exact .inl ⟨rfl, fun _ ht => nomatch ht⟩
  | cons t ts ih =>
    change (((traffic.turn client t.1 t.2).run client ts = traffic ∧ _) ∨
      ((traffic.turn client t.1 t.2).run client ts).rank < traffic.rank)
    rcases turn_eq_or_rank_lt client traffic t.1 t.2 with ⟨hsame, hidle⟩ | hlt
    · rw [hsame]
      exact (ih traffic).imp_left fun ⟨hrun, hrest⟩ =>
        ⟨hrun, List.forall_mem_cons.mpr ⟨hidle, hrest⟩⟩
    · rcases ih (traffic.turn client t.1 t.2) with ⟨hrun, -⟩ | hrest
      · exact .inr (by rwa [hrun])
      · exact .inr (Nat.lt_trans hrest hlt)

/-! ### Who keeps others waiting -/

/-- If somebody is logging in, it is one of the errands. -/
def HasHolder (traffic : Traffic) : Prop :=
  traffic.shared.loggingIn = true →
    ∃ (i : Nat) (e : Errand) (stage : Stage e),
      traffic.errands[i]? = some ⟨e, stage⟩ ∧ stage.isLoggingIn = true

end Traffic

/-- Whoever finds somebody logging in after its turn logs in itself, or somebody did before. -/
theorem Stage.loggingIn_of_advance (client : Client) (t : Turn) (shared : Shared)
    (stage : Stage e) (h : (stage.advance client t shared).2.loggingIn = true) :
    (stage.advance client t shared).1.isLoggingIn = true ∨
      shared.loggingIn = true ∧ stage.isLoggingIn = false := by
  cases stage with
  | starting =>
    refine .inr ⟨?_, rfl⟩
    rw [advance] at h
    split at h <;> exact h
  | queuing rejected =>
    by_cases hflag : shared.loggingIn = true
    · exact .inr ⟨hflag, rfl⟩
    · have halone : shared.loggingIn = (Stage.queuing rejected : Stage e).isLoggingIn :=
        Bool.eq_false_iff.mpr hflag
      exact .inl ((Stage.loggingIn_advance client t halone).symm.trans h)
  | loggingIn c rejected =>
    rw [advance] at h
    split at h <;> cases h
  | asking token again =>
    refine .inr ⟨?_, rfl⟩
    rw [advance] at h
    split at h
    · exact h
    · split at h <;> exact h
  | ended result => exact .inr ⟨h, rfl⟩

namespace Traffic

/-- A turn keeps it so. -/
theorem HasHolder.turn (h : traffic.HasHolder) (client : Client) (i : Nat) (t : Turn) :
    (traffic.turn client i t).HasHolder := by
  intro hflag
  cases hplace : traffic.errands[i]? with
  | none =>
    rw [turn_of_getElem?_eq_none hplace] at hflag ⊢
    exact h hflag
  | some errand =>
    obtain ⟨e, stage⟩ := errand
    have hshared : (stage.advance client t traffic.shared).2.loggingIn = true := by
      rwa [turn_of_getElem?_eq_some hplace] at hflag
    rcases Stage.loggingIn_of_advance client t traffic.shared stage hshared with
      hself | ⟨hbefore, hnot⟩
    · exact ⟨i, e, _, getElem?_turn_self client hplace t, hself⟩
    · obtain ⟨j, e', stage', hj, hlogging⟩ := h hbefore
      -- The one that was logging in is not the one whose turn it is.
      have hne : i ≠ j := by
        rintro rfl
        cases Option.some.inj (hplace.symm.trans hj)
        cases hnot.symm.trans hlogging
      exact ⟨j, e', stage', (getElem?_turn_ne client hne t traffic).trans hj, hlogging⟩

/-- Turns keep it so. -/
theorem HasHolder.run (h : traffic.HasHolder) (client : Client) (ts : List (Nat × Turn)) :
    (traffic.run client ts).HasHolder := by
  induction ts generalizing traffic with
  | nil => exact h
  | cons t ts ih => exact ih (h.turn client t.1 t.2)

/-- No errand is lost. -/
theorem length_run (client : Client) (ts : List (Nat × Turn)) (traffic : Traffic) :
    (traffic.run client ts).errands.length = traffic.errands.length := by
  induction ts generalizing traffic with
  | nil => rfl
  | cons t ts ih => exact (ih _).trans (length_turn client t.1 t.2 traffic)

/-- If all errands have ended or wait, all have ended. -/
theorem rank_eq_zero_of_forall_isIdle (h : traffic.HasHolder)
    (hidle : ∀ i < traffic.errands.length, traffic.IsIdle i) : traffic.rank = 0 := by
  rw [rank, List.sum_eq_zero_iff_forall_eq_nat]
  intro r hr
  obtain ⟨⟨e, stage⟩, hmem, rfl⟩ := List.mem_map.mp hr
  obtain ⟨i, hi, heq⟩ := List.getElem_of_mem hmem
  have hplace : traffic.errands[i]? = some ⟨e, stage⟩ := heq ▸ List.getElem?_eq_getElem hi
  refine (hidle i hi e stage hplace).resolve_left fun hwaits => ?_
  -- Whoever logs in neither waits nor has ended.
  have hflag : traffic.shared.loggingIn = true := by
    cases stage with
    | queuing => exact hwaits
    | _ => cases hwaits
  obtain ⟨j, e', stage', hj, hlogging⟩ := h hflag
  have hidle' := hidle j (List.getElem?_eq_some_iff.mp hj).1 e' stage' hj
  cases stage' with
  | loggingIn c rejected => rcases hidle' with hno | hno <;> cases rejected <;> cases hno
  | _ => cases hlogging

/-- **In rounds in which every errand has a turn, every round leaves fewer turns.** -/
theorem rank_run_flatten_le (client : Client) (h : traffic.HasHolder)
    (rounds : List (List (Nat × Turn)))
    (hrounds : ∀ r ∈ rounds, ∀ i < traffic.errands.length, i ∈ r.map Prod.fst) :
    (traffic.run client rounds.flatten).rank ≤ traffic.rank - rounds.length := by
  induction rounds generalizing traffic with
  | nil => exact Nat.le_refl _
  | cons r rounds ih =>
    obtain ⟨hround, hrest⟩ := List.forall_mem_cons.mp hrounds
    rw [List.flatten_cons, run_append, List.length_cons]
    have hlater := ih (h.run client r) (by rwa [length_run])
    have hdrop : (traffic.run client r).rank ≤ traffic.rank - 1 := by
      rcases run_eq_or_rank_lt client r traffic with ⟨hrun, hidle⟩ | hlt
      · have hzero : traffic.rank = 0 := by
          refine rank_eq_zero_of_forall_isIdle h fun i hi => ?_
          obtain ⟨t, ht, rfl⟩ := List.mem_map.mp (hround i hi)
          exact hidle t ht
        exact Nat.le_trans (Nat.le_of_eq (by rw [hrun, hzero])) (Nat.zero_le _)
      · omega
    omega

end Traffic

/-! ### Calls that are left -/

/-- How many times an errand may still send its own call. -/
def Stage.asksLeft : Stage e → Nat
  | .starting => 2
  | .queuing rejected => if rejected.isSome then 1 else 2
  | .loggingIn _ rejected => if rejected.isSome then 1 else 2
  | .asking _ again => if again then 0 else 1
  | .ended _ => 0

/-- The errand has sent its own call and awaits the answer. -/
def Stage.isAsking (stage : Stage e) : Bool :=
  stage.call?.any (!·.isLogin)

/-- Sending the call with a token takes one of the times that are left. -/
theorem Stage.asksLeft_ask_add (token : String) (rejected : Option String) :
    (ask token rejected.isSome : Stage e).asksLeft +
        (if (ask token rejected.isSome : Stage e).isAsking then 1 else 0) ≤
      if rejected.isSome then 1 else 2 := by
  rw [ask]
  split <;> cases rejected <;> simp [asksLeft, isAsking, call?]

/-- Beginning to log in takes none of the times that are left. -/
theorem Stage.asksLeft_logIn_add (client : Client) (rejected : Option String) (shared : Shared) :
    (logIn client rejected shared : Stage e × Shared).1.asksLeft +
        (if (logIn client rejected shared : Stage e × Shared).1.isAsking then 1 else 0) ≤
      if rejected.isSome then 1 else 2 := by
  rw [logIn]
  split <;> cases rejected <;> simp [asksLeft, isAsking, call?]

/-- Whenever an errand sends its call it has one time less left to do so. -/
theorem Stage.asksLeft_advance_add (client : Client) (t : Turn) (shared : Shared)
    (stage : Stage e) :
    (stage.advance client t shared).1.asksLeft +
        (if (stage.advance client t shared).1.isAsking then 1 else 0) ≤ stage.asksLeft := by
  cases stage with
  | starting =>
    rw [advance]
    split
    · exact asksLeft_ask_add _ none
    · exact Nat.le_refl _
  | queuing rejected =>
    rw [advance]
    split
    · exact Nat.le_refl _
    · split
      · split
        · exact asksLeft_logIn_add _ _ _
        · exact asksLeft_ask_add _ _
      · exact asksLeft_logIn_add _ _ _
  | loggingIn c rejected =>
    rw [advance]
    split
    · exact asksLeft_ask_add _ _
    · exact Nat.zero_le _
  | asking token again =>
    rw [advance]
    split
    · exact Nat.zero_le _
    · split
      · next hagain =>
        rw [hagain.2.1]
        exact Nat.le_refl _
      · exact Nat.zero_le _
  | ended result => exact Nat.le_refl _

namespace Traffic

/-- How many times the errand at a place may still send its own call. -/
def asksLeft (traffic : Traffic) (i : Nat) : Nat :=
  (traffic.errands[i]?.map fun errand => errand.2.asksLeft).getD 0

/-- What a turn of an errand takes from the times that are left. -/
theorem asksLeft_turn_add (client : Client) (traffic : Traffic) (i : Nat) (t : Turn) :
    (traffic.turn client i t).asksLeft i + (if Visit.asks client ⟨traffic, i, t⟩ then 1 else 0) ≤
      traffic.asksLeft i := by
  cases hplace : traffic.errands[i]? with
  | none =>
    rw [Visit.asks, Visit.sent?, turn_of_getElem?_eq_none hplace, call?, hplace]
    exact Nat.le_refl _
  | some errand =>
    obtain ⟨e, stage⟩ := errand
    rw [Visit.asks, Visit.sent?, call?, asksLeft, getElem?_turn_self client hplace, asksLeft,
      hplace]
    exact stage.asksLeft_advance_add client t traffic.shared

/-- **An errand sends its call at most as many times as it has left.** -/
theorem countP_asks_le (client : Client) (ts : List (Nat × Turn)) (traffic : Traffic) (i : Nat) :
    (traffic.visits client ts).countP (fun v => v.place = i && v.asks client) ≤
      traffic.asksLeft i := by
  induction ts generalizing traffic with
  | nil => exact Nat.zero_le _
  | cons t ts ih =>
    obtain ⟨j, t⟩ := t
    have hrest := ih (traffic.turn client j t)
    rw [visits_cons, List.countP_cons]
    by_cases hj : j = i
    · subst hj
      have hturn := asksLeft_turn_add client traffic j t
      simp only [decide_true, Bool.true_and]
      omega
    · have hsame : (traffic.turn client j t).asksLeft i = traffic.asksLeft i := by
        rw [asksLeft, asksLeft, getElem?_turn_ne client hj]
      simp only [hj, decide_false, Bool.false_and, Bool.false_eq_true, if_false]
      omega

/-- Of errands that are about to start none sends its call more than twice. -/
theorem countP_asks_le_two (client : Client) (slot : SessionSlot) (es : List Errand)
    (ts : List (Nat × Turn)) (i : Nat) :
    ((starting slot es).visits client ts).countP (fun v => v.place = i && v.asks client) ≤ 2 := by
  refine Nat.le_trans (countP_asks_le client ts _ i) ?_
  rw [asksLeft, starting, List.getElem?_map]
  cases es[i]? with
  | none => exact Nat.zero_le _
  | some e => exact Nat.le_refl _

end Traffic

end Household.Remote
