import Household.Proofs.Alarm.Convergence
import Household.Proofs.Alarm.Handling
import Household.Proofs.Alarm.Rearming

/-!
# What One Stored Alarm Does to the Others

Stored alarms are gone through one after the other, after a restart by id and later as their timers
fire. They share one flow of control: where the end of a run is needed and there is none, everything
that comes after it is left out. So an alarm can silence others, and here is said exactly when. What
happens with it is compared with what would have happened without it.

## Main results

* `filter_rearm_iff`: when the timers of the others are set after a restart as they would be without
  the alarm.
* `told_without`: an alarm that is not stored is like one that does not fire.
* `filter_told_iff`: when the others are handled as they would be without the alarm.
* `isolated_iff`: both together.
-/

namespace Household

/-! ### After a restart -/

section Rearm

variable {now : Instant} {lead : Span}

/-- An alarm leaves the others be, unless it stalls and the timer of a later one would be set. -/
theorem filter_rearmAll_iff {rows : List Alarm} (hrows : (rows.map (·.id)).Pairwise (· < ·))
    (r : Int64) :
    (rearmAll now lead rows).1.filter (·.id ≠ r) =
        (rearmAll now lead (rows.filter (·.id ≠ r))).1 ↔
      ∀ a ∈ rows, a.id = r → a.Stalls now lead →
        ∀ c ∈ (rearmAll now lead (rows.filter (·.id ≠ r))).1, c.id < r := by
  have hid : ∀ a cs, Alarm.rearm? now lead a = some cs → ∀ c ∈ cs, c.id = a.id :=
    fun _ _ hcs _ => Alarm.id_of_mem_rearm? hcs
  simp only [rearmAll_eq_outputs, ← Alarm.rearm?_eq_none_iff]
  exact Loop.filter_outputs_iff_of_pairwise hid hrows r

/-- **After a restart an alarm leaves the others be, unless it stalls and the timer of a later one
would be set without it.** -/
theorem filter_rearm_iff {store : Store} (hk : store.Keyed) (now : Instant) (lead : Span)
    (r : Int64) :
    (rearm now lead store).1.filter (·.id ≠ r) = (rearm now lead (store.without r)).1 ↔
      ∀ a, store.alarms.get? r = some a → a.Stalls now lead →
        ∀ c ∈ (rearm now lead (store.without r)).1, c.id < r := by
  have hkeyed := hk.alarms
  by_cases hopen : store.IsOpen
  · have hall : store.all = .ok store.alarms.values := Store.all_eq_ok_iff.mpr ⟨hopen, rfl⟩
    have hwithout : (store.without r).all = .ok (store.alarms.values.filter (·.id ≠ r)) := by
      refine Store.all_eq_ok_iff.mpr ⟨(store.isOpen_without r).mpr hopen, ?_⟩
      rw [Store.alarms_without, hkeyed.values_erase]
    rw [rearm, rearm, hall, hwithout]
    dsimp only
    rw [filter_rearmAll_iff hkeyed.pairwise_values]
    constructor
    · intro h a ha
      obtain rfl := hkeyed r a ha
      exact h a (hkeyed.mem_values_iff.mpr ha) rfl
    · rintro h a ha rfl
      exact h a (hkeyed.mem_values_iff.mp ha)
  · have hclosed {s : Store} (hs : ¬ s.IsOpen) : (rearm now lead s).1 = [] := by
      rw [rearm]
      cases hall : s.all with
      | error e => rfl
      | ok l => exact absurd (Store.all_eq_ok_iff.mp hall).1 hs
    rw [hclosed hopen, hclosed (mt (store.isOpen_without r).mp hopen)]
    exact iff_of_true rfl fun _ _ _ c hc => absurd hc List.not_mem_nil

end Rearm

/-! ### Fired alarms -/

namespace Firing

/-- A fired id, and the clock when it is handled. -/
structure Fired where
  id : Int64
  now : Instant

/-- What the user and the scheduler are told when a fired id is handled. -/
structure Told where
  id : Int64
  messages : List Message
  commands : List TimerCommand
deriving DecidableEq

namespace Fired

/-- What is found out about a fired id. -/
def finding (store : Store) (f : Fired) : Finding :=
  .of store f.now f.id

/-- The handling of a fired id ends the sequence: its run is to start now, and has no end. -/
def Aborts (store : Store) (f : Fired) : Prop :=
  ∃ a, store.load f.id = .ok (some a) ∧ a.start ≤ f.now ∧ ¬ a.HasEnd

/-- What is told when a fired id is handled, if anything is; none if that ends the sequence. -/
def told? (zone : Zone) (store : Store) (f : Fired) : Option (List Told) :=
  let one := handle zone (f.finding store)
  match one.result with
  | .error (.range _) => none
  | _ =>
    some (if one.messages.isEmpty ∧ one.commands.isEmpty then []
      else [⟨f.id, one.messages, one.commands⟩])

end Fired

/-- What is told when fired ids are handled one after the other. -/
def told (zone : Zone) (store : Store) (fs : List Fired) : List Told :=
  Loop.outputs (Fired.told? zone store) fs

variable {zone : Zone} {store : Store}

/-- **What is told one by one is what the handling of the whole sequence leaves behind.** -/
theorem flatMap_told (zone : Zone) (store : Store) (fs : List Fired) :
    (told zone store fs).flatMap (·.messages) =
        (dispatch zone (fs.map (·.finding store))).messages ∧
      (told zone store fs).flatMap (·.commands) =
        (dispatch zone (fs.map (·.finding store))).commands := by
  induction fs with
  | nil => exact ⟨rfl, rfl⟩
  | cons f fs ih =>
    rw [told] at ih
    rw [told, Loop.outputs, Fired.told?, List.map_cons, dispatch]
    have hcases := handled_handle zone (f.finding store)
    generalize handle zone (f.finding store) = one at hcases
    cases hcases with
    | unanswered _ => exact ih
    | gone _ => exact ih
    | ready _ _ => exact ⟨congrArg _ ih.1, congrArg _ ih.2⟩
    | started _ _ _ => exact ⟨congrArg _ ih.1, ih.2⟩
    | endless _ _ _ => exact ⟨rfl, rfl⟩

namespace Fired

variable {f : Fired}

/-- The sequence ends exactly with a handling that is out of range. -/
theorem told?_eq_none_iff : f.told? zone store = none ↔ f.Aborts store := by
  rw [told?]
  constructor
  · intro h
    split at h
    · next hresult => exact exists_of_result_eq_range hresult
    · cases h
  · rintro ⟨a, hload, hstart, hend⟩
    have hloaded : (f.finding store).loaded = .ok (some a) := hload
    obtain ⟨e, he⟩ := handle_of_not_hasEnd zone hloaded hstart hend
    rw [he]

/-- What is told for a fired id is told under that id. -/
theorem id_of_mem_told? {l : List Told} (h : f.told? zone store = some l) {t : Told}
    (ht : t ∈ l) : t.id = f.id := by
  rw [told?] at h
  split at h
  · cases h
  · obtain rfl := Option.some.inj h
    split at ht
    · exact absurd ht List.not_mem_nil
    · obtain rfl := List.mem_singleton.mp ht
      rfl

/-- For other ids the same is told without the alarm. -/
theorem told?_without_of_ne {r : Int64} (h : f.id ≠ r) :
    f.told? zone (store.without r) = f.told? zone store := by
  rw [told?, told?, finding, finding, Finding.of, Finding.of, store.load_without_of_ne h]

/-- For an alarm that is not stored nothing is told. -/
theorem told?_without_self (f : Fired) (zone : Zone) (store : Store) :
    f.told? zone (store.without f.id) = some [] := by
  have hcases := handled_handle zone (f.finding (store.without f.id))
  rw [told?]
  generalize handle zone (f.finding (store.without f.id)) = one at hcases
  cases hcases with
  | unanswered _ => rfl
  | gone _ => rfl
  | ready hloaded _ => exact absurd hloaded (store.load_without_self_ne f.id _)
  | started hloaded _ _ => exact absurd hloaded (store.load_without_self_ne f.id _)
  | endless hloaded _ _ => exact absurd hloaded (store.load_without_self_ne f.id _)

end Fired

/-! ### The others -/

/-- **An alarm that is not stored is like one that does not fire.** -/
theorem told_without (zone : Zone) (store : Store) (r : Int64) (fs : List Fired) :
    told zone (store.without r) fs = told zone store (fs.filter (·.id ≠ r)) := by
  refine Loop.outputs_eq_outputs_filter (fun f hf => ?_) (fun f hf => ?_) fs
  · exact Fired.told?_without_of_ne (by simpa using hf)
  · obtain rfl : f.id = r := by simpa using hf
    exact f.told?_without_self zone store

/-- **A fired alarm leaves the others be, unless its handling ends the sequence and others would be
told of after it.** -/
theorem filter_told_iff (zone : Zone) (store : Store) (r : Int64) (fs : List Fired) :
    (told zone store fs).filter (·.id ≠ r) = told zone (store.without r) fs ↔
      ∀ before now after, fs = before ++ ⟨r, now⟩ :: after → (∀ f ∈ before, ¬ f.Aborts store) →
        Fired.Aborts store ⟨r, now⟩ → told zone (store.without r) after = [] := by
  have hid : ∀ f l, Fired.told? zone store f = some l →
      ∀ t ∈ l, decide (t.id ≠ r) = decide (f.id ≠ r) := by
    intro f l hl t ht
    rw [Fired.id_of_mem_told? hl ht]
  simp only [told_without]
  rw [told, told, Loop.filter_outputs_iff hid]
  simp only [ne_eq, Fired.told?_eq_none_iff, decide_eq_false_iff_not, not_not]
  constructor
  · intro h before now after hfs hbefore haborts
    exact h before ⟨r, now⟩ after hfs hbefore haborts rfl
  · rintro h before ⟨k, now⟩ after hfs hbefore haborts rfl
    exact h before now after hfs hbefore haborts

end Firing

/-! ### Both together -/

namespace Store

/-- **When one stored alarm leaves the others be.** After a restart it does so unless it stalls and
the timer of a later one would be set without it. Among the alarms that fire it does so unless its
handling ends the sequence and others would be told of after it; without it in the store, or without
it among them, is the same. -/
theorem isolated_iff {store : Store} (hk : store.Keyed) (r : Int64) :
    (∀ now lead,
      (rearm now lead store).1.filter (·.id ≠ r) = (rearm now lead (store.without r)).1 ↔
        ∀ a, store.alarms.get? r = some a → a.Stalls now lead →
          ∀ c ∈ (rearm now lead (store.without r)).1, c.id < r) ∧
      ∀ zone fs,
        Firing.told zone (store.without r) fs = Firing.told zone store (fs.filter (·.id ≠ r)) ∧
          ((Firing.told zone store fs).filter (·.id ≠ r) = Firing.told zone (store.without r) fs ↔
            ∀ before now after, fs = before ++ ⟨r, now⟩ :: after →
              (∀ f ∈ before, ¬ f.Aborts store) → Firing.Fired.Aborts store ⟨r, now⟩ →
                Firing.told zone (store.without r) after = []) :=
  ⟨fun now lead => filter_rearm_iff hk now lead r, fun zone fs =>
    ⟨Firing.told_without zone store r fs, Firing.filter_told_iff zone store r fs⟩⟩

/-! ### A run without an end -/

/-- Two runs of a washer at noon, of which the first takes the longest time that can be served. -/
def endlessHistories : List DeviceTask :=
  [⟨⟨1, "Washer", .zero⟩,
    [⟨⟨10, 1, ⟨.epoch, Pass.noon⟩, Int64.maxValue⟩, some ⟨100, 10, Pass.noon⟩⟩,
      ⟨⟨20, 1, ⟨.epoch, Pass.noon⟩, 300000⟩, some ⟨105, 20, Pass.noon⟩⟩]⟩]

/-- The store after a pass over these runs, ten minutes ahead of every start. -/
def endless : Store :=
  (Pass.run ⟨.ok endlessHistories, .epoch, ⟨600000000000⟩⟩ (.database .empty)).store

/-- The later of the two runs leaves the other one be. -/
theorem isolated_endless :
    endless.Keyed ∧
      (rearm .epoch ⟨600000000000⟩ endless).1.filter (·.id ≠ 105) =
        (rearm .epoch ⟨600000000000⟩ (endless.without 105)).1 := by
  have hempty : (Store.database .empty).Keyed := Table.Keyed.empty
  have hk : endless.Keyed := Pass.keyed_run _ hempty
  refine ⟨hk, ((isolated_iff hk 105).1 .epoch ⟨600000000000⟩).mpr fun a ha => ?_⟩
  obtain rfl : ⟨105, "Washer", Pass.noon, 300000⟩ = a := Option.some.inj ha
  rintro (hend | ⟨-, hdue⟩)
  · exact absurd ⟨_, rfl⟩ hend
  · exact absurd ⟨_, rfl⟩ hdue

/-- The run without an end silences the other one, after a restart and when both fire. -/
theorem not_isolated_endless :
    (rearm .epoch ⟨600000000000⟩ endless).1.filter (·.id ≠ 100) ≠
        (rearm .epoch ⟨600000000000⟩ (endless.without 100)).1 ∧
      (Firing.told .universal endless [⟨100, Pass.noon⟩, ⟨105, Pass.noon⟩]).filter (·.id ≠ 100) ≠
        Firing.told .universal (endless.without 100) [⟨100, Pass.noon⟩, ⟨105, Pass.noon⟩] := by
  have hrearm : (rearm .epoch ⟨600000000000⟩ endless).1 = [] := rfl
  have htold : Firing.told .universal endless [⟨100, Pass.noon⟩, ⟨105, Pass.noon⟩] = [] := rfl
  have hrearm' : (rearm .epoch ⟨600000000000⟩ (endless.without 100)).1 ≠ [] := by decide
  have htold' : (Firing.told .universal (endless.without 100)
      [⟨100, Pass.noon⟩, ⟨105, Pass.noon⟩]).map (·.id) = [105] := rfl
  rw [hrearm, htold]
  refine ⟨hrearm'.symm, fun hnil => ?_⟩
  rw [← hnil] at htold'
  cases htold'

end Store

end Household
