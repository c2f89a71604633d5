import Household.Proofs.Instant.Order
import Household.Proofs.StableSort
import Household.Schedule.History
import Mathlib.Data.String.Basic

/-!
# The Orders of Devices and of Histories

Devices come by the code points of their names. In a history, what has an event comes before what
has none, and of two events the one that starts later comes first. Neither order tells everything
apart, and what ties stays as it was listed.

## Main results

* `isStableSort_sortDevices`, `isStableSort_sort`: both sorts are stable.
-/

namespace Household

/-! ### Devices by name -/

/-- The code points of a text. -/
def Text.codePoints (s : String) : List Nat :=
  s.toList.map Char.toNat

/-- The earlier text has the earlier code points. -/
theorem Text.strictMono_codePoints : StrictMono codePoints :=
  fun _ _ h => List.map_lt (fun _ _ hcd => hcd) (String.lt_iff.mp h)

/-- A device comes before another one, or ties with it, by the code points of their names. -/
def Device.Precedes (a b : Device) : Prop :=
  Text.codePoints a.name ≤ Text.codePoints b.name

instance : DecidableRel Device.Precedes :=
  fun _ _ => inferInstanceAs (Decidable (_ ≤ _))

/-- Devices come by their names. -/
theorem Device.precedes_iff (a b : Device) : a.Precedes b ↔ a.name ≤ b.name :=
  Text.strictMono_codePoints.le_iff_le

/-- Every device ties with itself. -/
theorem Device.precedes_refl (a : Device) : a.Precedes a :=
  le_refl (Text.codePoints a.name)

/-! ### Runs before tasks without an event, late runs before early ones -/

/-- A task-event comes before another one, or ties with it: if the other one has an event, then so
has this one, and starts no earlier. -/
def TaskEvent.Precedes (a b : TaskEvent) : Prop :=
  ∀ f ∈ b.event, ∃ e ∈ a.event, f.start ≤ e.start

/-- The order of histories in these words. -/
theorem TaskEvent.precedes_iff (a b : TaskEvent) : a.Precedes b ↔ (a.order b).isLE = true := by
  rw [Precedes, order]
  cases a.event with
  | none => cases b.event <;> simp
  | some e =>
    cases b.event with
    | none => simp
    | some f =>
      rcases lt_trichotomy f.start e.start with h | h | h
      · simp [Instant.order, h, h.le]
      · simp [Instant.order, h]
      · simp [Instant.order, h, h.not_gt, h.not_ge]

instance : DecidableRel TaskEvent.Precedes :=
  fun a b => decidable_of_iff _ (TaskEvent.precedes_iff a b).symm

/-- Every task-event ties with itself. -/
theorem TaskEvent.precedes_refl (a : TaskEvent) : a.Precedes a :=
  fun e he => ⟨e, he, le_refl _⟩

/-- What comes before something comes before all that follows it. -/
theorem TaskEvent.Precedes.trans {a b c : TaskEvent} (hab : a.Precedes b) (hbc : b.Precedes c) :
    a.Precedes c := by
  intro g hg
  obtain ⟨f, hf, hgf⟩ := hbc g hg
  obtain ⟨e, he, hfe⟩ := hab f hf
  exact ⟨e, he, hgf.trans hfe⟩

/-- Of two task-events one comes before the other, or they tie. -/
theorem TaskEvent.precedes_total (a b : TaskEvent) : a.Precedes b ∨ b.Precedes a := by
  rcases a with ⟨t, _ | e⟩
  · exact .inr fun _ he => absurd he (by simp)
  · rcases b with ⟨u, _ | f⟩
    · exact .inl fun _ hf => absurd hf (by simp)
    · rcases le_total f.start e.start with h | h
      · exact .inl fun f' hf => ⟨e, rfl, by obtain rfl := Option.some.inj hf; exact h⟩
      · exact .inr fun e' he => ⟨f, rfl, by obtain rfl := Option.some.inj he; exact h⟩

/-! ### Both sorts are stable -/

namespace History

/-- **Devices are sorted stably by name.** -/
theorem isStableSort_sortDevices (devices : List Device) :
    IsStableSort Device.Precedes devices (sortDevices devices) := by
  have hsort : sortDevices devices = devices.mergeSort fun a b => decide (a.Precedes b) := by
    simp only [sortDevices, Device.precedes_iff]
  rw [hsort]
  refine isStableSort_mergeSort (fun a b c => ?_) (fun a b => ?_) devices
  · simp only [Device.precedes_iff]
    exact String.le_trans
  · simp only [Device.precedes_iff]
    exact String.le_total a.name b.name

/-- **Histories are sorted stably, runs first and late ones before early ones.** -/
theorem isStableSort_sort (taskEvents : List TaskEvent) :
    IsStableSort TaskEvent.Precedes taskEvents (sort taskEvents) := by
  have hsort : sort taskEvents = taskEvents.mergeSort fun a b => decide (a.Precedes b) := by
    simp only [sort, TaskEvent.precedes_iff, Bool.decide_eq_true]
  rw [hsort]
  exact isStableSort_mergeSort (fun a b c (hab : a.Precedes b) hbc => hab.trans hbc)
    TaskEvent.precedes_total taskEvents

end History

end Household
