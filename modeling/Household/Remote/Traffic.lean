import Household.Remote.Errand
import Household.Remote.Served

/-!
# Errands at the Same Time

A client can be on several errands at once. They get their turns in any order; all that they have in
common is the session file and that one at a time logs in. A fetch is such traffic: the three lists
are asked for together.

## Main results

* `getElem?_turn_ne`: the turn of an errand leaves the stages of the others as they are.
* `length_turn`: no errand is lost.
-/

namespace Household.Remote

/-- Errands under way, and what they share. -/
structure Traffic where
  shared : Shared
  errands : List ((e : Errand) × Stage e)

namespace Traffic

/-- Errands that are about to start, with nobody logging in. -/
def starting (slot : SessionSlot) (es : List Errand) : Traffic :=
  ⟨⟨slot, false⟩, es.map fun e => ⟨e, .starting⟩⟩

/-- The call whose answer the errand at a place awaits. -/
def call? (traffic : Traffic) (i : Nat) : Option Call :=
  traffic.errands[i]?.bind fun errand => errand.2.call?

/-- A turn of the errand at a place. -/
def turn (client : Client) (i : Nat) (turn : Turn) (traffic : Traffic) : Traffic :=
  match traffic.errands[i]? with
  | none => traffic
  | some ⟨e, stage⟩ =>
    let (stage, shared) := stage.advance client turn traffic.shared
    ⟨shared, traffic.errands.set i ⟨e, stage⟩⟩

/-- Turns of errands in a given order. -/
def follow {σ : Type} (client : Client) (outside : Option Call → σ → Turn × σ) :
    List Nat → Traffic → σ → Traffic × σ
  | [], traffic, world => (traffic, world)
  | i :: order, traffic, world =>
    let (turn, world) := outside (traffic.call? i) world
    follow client outside order (traffic.turn client i turn) world

/-- What was served, once all three errands of a fetch have ended. -/
def served? (traffic : Traffic) : Option Served :=
  match traffic.errands with
  | [⟨.devices, .ended devices⟩, ⟨.tasks, .ended tasks⟩, ⟨.events, .ended events⟩] =>
    some ⟨devices, tasks, events⟩
  | _ => none

/-- The turn of an errand leaves the stages of the others as they are. -/
theorem getElem?_turn_ne (client : Client) {i j : Nat} (h : i ≠ j) (t : Turn) (traffic : Traffic) :
    (traffic.turn client i t).errands[j]? = traffic.errands[j]? := by
  unfold turn
  split
  · rfl
  · simp [List.getElem?_set_ne h]

/-- No errand is lost. -/
theorem length_turn (client : Client) (i : Nat) (t : Turn) (traffic : Traffic) :
    (traffic.turn client i t).errands.length = traffic.errands.length := by
  unfold turn
  split
  · rfl
  · simp

end Traffic

namespace Client

/-- An exchange of a token for credentials. Nothing is stored. -/
def login {σ : Type} (client : Client) (outside : Option Call → σ → Turn × σ) (c : Credentials)
    (world : σ) : Except SourceError String × σ :=
  let (turn, world) := outside (some (loginCall c)) world
  (client.loginToken turn.answer, world)

/-- One errand from its start to its end: its outcome, the session file and the world after it. -/
def run {σ : Type} (client : Client) (outside : Option Call → σ → Turn × σ) (e : Errand)
    (slot : SessionSlot) (world : σ) : Except SourceError e.Received × SessionSlot × σ :=
  let final := Stage.follow client outside (Stage.starting : Stage e).rank .starting ⟨slot, false⟩
    world
  (final.1.result?.get (Stage.isSome_result?_follow client outside rfl (Nat.le_refl _) world),
    final.2.1.slot, final.2.2)

/-- A fetch of the three lists, whose errands take turns one after the other. As long as one of them
has not ended each round brings one of them on, so there are as many rounds as they have turns. -/
def fetch {σ : Type} (client : Client) (outside : Option Call → σ → Turn × σ) (slot : SessionSlot)
    (world : σ) : Option Served × SessionSlot × σ :=
  let rounds := 3 * (Stage.starting : Stage .devices).rank
  let (traffic, world) :=
    Traffic.follow client outside (List.replicate rounds [0, 1, 2]).flatten
      (.starting slot [.devices, .tasks, .events]) world
  (traffic.served?, traffic.shared.slot, world)

end Client

end Household.Remote
