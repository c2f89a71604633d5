import Household.Proofs.Remote.Protocol
import Household.Remote.Traffic

/-!
# The Record of an Errand's Calls

To see what gets to the server the world outside is given a record of the calls that have reached
it; nothing else changes with that. In an errand these are calls that log in and the errand's own
call, with one token or another.

## Main results

* `Stage.eq_or_isOf_of_advance`: an errand ends well only by an answer to its own call.
* `Stage.exists_follow_recording`: what is recorded in some turns of an errand.
* `exists_run_recording`: what is recorded from its start to its end.
-/

namespace Household.Remote

variable {σ : Type} {e : Errand} {client : Client} {stage : Stage e}

/-! ### The calls of an errand -/

/-- A world outside that also records the calls that reach it, the first one first. -/
def recording (outside : Option Call → σ → Turn × σ) (call? : Option Call)
    (world : List Call × σ) : Turn × (List Call × σ) :=
  let (turn, after) := outside call? world.2
  (turn, world.1 ++ call?.toList, after)

/-- The call is the one of the errand, with some token. -/
def Call.IsOf (c : Call) (e : Errand) : Prop :=
  ∃ token, c = e.call token

/-- An errand makes no calls but its own and those that log in. -/
theorem Stage.isLogin_or_isOf {c : Call} (h : stage.call? = some c) :
    c.isLogin = true ∨ c.IsOf e := by
  cases stage with
  | loggingIn credentials rejected =>
    obtain rfl := Option.some.inj h
    exact .inl (isLogin_loginCall credentials)
  | asking token again =>
    obtain rfl := Option.some.inj h
    exact .inr ⟨token, rfl⟩
  | _ => cases h

/-- An errand does not end well by sending its call. -/
theorem Stage.ask_ne_ended_ok (token : String) (again : Bool) (received : e.Received) :
    (ask token again : Stage e) ≠ .ended (.ok received) := by
  rw [ask]
  split <;> simp

/-- An errand does not end well by beginning to log in. -/
theorem Stage.logIn_ne_ended_ok (rejected : Option String) (shared : Shared)
    (received : e.Received) :
    (logIn client rejected shared : Stage e × Shared).1 ≠ .ended (.ok received) := by
  rw [logIn]
  split <;> simp

/-- **An errand ends well only by an answer to its own call.** -/
theorem Stage.eq_or_isOf_of_advance {t : Turn} {shared : Shared} {received : e.Received}
    (h : (stage.advance client t shared).1 = .ended (.ok received)) :
    stage = .ended (.ok received) ∨ ∃ c, stage.call? = some c ∧ c.IsOf e := by
  cases stage with
  | starting =>
    rw [advance] at h
    split at h
    · exact absurd h (ask_ne_ended_ok _ _ _)
    · cases h
  | queuing rejected =>
    rw [advance] at h
    split at h
    · cases h
    · split at h
      · split at h
        · exact absurd h (logIn_ne_ended_ok _ _ _)
        · exact absurd h (ask_ne_ended_ok _ _ _)
      · exact absurd h (logIn_ne_ended_ok _ _ _)
  | loggingIn credentials rejected =>
    rw [advance] at h
    split at h
    · exact absurd h (ask_ne_ended_ok _ _ _)
    · cases h
  | asking token again => exact .inr ⟨e.call token, rfl, token, rfl⟩
  | ended result => exact .inl h

/-- **What is recorded in some turns of an errand**: calls that log in and its own call, and this if
the errand has ended well in these turns. All else is as without a record. -/
theorem Stage.exists_follow_recording (client : Client) (outside : Option Call → σ → Turn × σ)
    (n : Nat) (stage : Stage e) (shared : Shared) (sent : List Call) (world : σ) :
    let final := follow client outside n stage shared world
    ∃ calls : List Call,
      follow client (recording outside) n stage shared (sent, world) =
        (final.1, final.2.1, sent ++ calls, final.2.2) ∧
      (∀ c ∈ calls, c.isLogin = true ∨ c.IsOf e) ∧
      ∀ received, final.1 = .ended (.ok received) →
        stage = .ended (.ok received) ∨ ∃ c ∈ calls, c.IsOf e := by
  induction n generalizing stage shared sent world with
  | zero =>
    refine ⟨[], ?_, (fun _ hc => nomatch hc), fun _ h => .inl h⟩
    rw [List.append_nil]
    rfl
  | succ n ih =>
    let t := (outside stage.call? world).1
    obtain ⟨calls, hfollow, hcalls, hended⟩ :=
      ih (stage.advance client t shared).1 (stage.advance client t shared).2
        (sent ++ stage.call?.toList) (outside stage.call? world).2
    refine ⟨stage.call?.toList ++ calls, ?_, fun c hc => ?_, fun received hreceived => ?_⟩
    · rw [← List.append_assoc]
      exact hfollow
    · rcases List.mem_append.mp hc with hfirst | hlater
      · exact isLogin_or_isOf (Option.mem_toList.mp hfirst)
      · exact hcalls c hlater
    · rcases hended received hreceived with hnow | ⟨c, hc, hown⟩
      · refine (eq_or_isOf_of_advance hnow).imp_right fun ⟨c, hcall, hown⟩ => ?_
        exact ⟨c, List.mem_append_left calls (Option.mem_toList.mpr hcall), hown⟩
      · exact .inr ⟨c, List.mem_append_right _ hc, hown⟩

/-- What is recorded in an errand from its start to its end. -/
theorem exists_run_recording (client : Client) (outside : Option Call → σ → Turn × σ) (e : Errand)
    (slot : SessionSlot) (sent : List Call) (world : σ) :
    let final := client.run outside e slot world
    ∃ calls : List Call,
      client.run (recording outside) e slot (sent, world) =
        (final.1, final.2.1, sent ++ calls, final.2.2) ∧
      (∀ c ∈ calls, c.isLogin = true ∨ c.IsOf e) ∧
      ∀ received, final.1 = .ok received → ∃ c ∈ calls, c.IsOf e := by
  intro final
  obtain ⟨calls, hfollow, hcalls, hended⟩ :=
    Stage.exists_follow_recording client outside (Stage.starting : Stage e).rank .starting
      ⟨slot, false⟩ sent world
  have hend := Stage.follow_ended client outside (Stage.starting : Stage e).rank .starting
    ⟨slot, false⟩ world rfl (Nat.le_refl _)
  refine ⟨calls, ?_, hcalls, fun received hreceived => ?_⟩
  · simp only [Client.run, hfollow]
    rfl
  · refine (hended received ?_).resolve_left (by simp)
    rw [Stage.eq_ended_get hend (Stage.isSome_result?_follow _ _ rfl (Nat.le_refl _) _)]
    exact congrArg Stage.ended hreceived

end Household.Remote
