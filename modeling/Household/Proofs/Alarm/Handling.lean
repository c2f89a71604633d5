import Household.Alarm.Firing
import Household.Proofs.Alarm.Bounds

/-!
# What Handling a Fired Alarm Can Do

The handling of a fired alarm ends in one of five ways. Two of them show a message: ahead of the
start the timer is set for the start, and from the start on it is not set again. Only a run without
an end goes out of range.

## Main results

* `handled_handle`: the ways in which the handling ends.
* `handle_of_loaded`: what becomes of a stored alarm.
-/

namespace Household.Firing

variable {zone : Zone} {f : Finding}

/-- The ways in which the handling of a fired alarm ends. -/
inductive Handled (zone : Zone) (f : Finding) : Report (Option Notice) → Prop
  /-- The store did not answer. -/
  | unanswered {e : StoreError} (hloaded : f.loaded = .error e) :
      Handled zone f ⟨[], [], .error (.store e)⟩
  /-- The alarm is gone. -/
  | gone (hloaded : f.loaded = .ok none) : Handled zone f ⟨[], [], .ok none⟩
  /-- The run is still to start: its timer is set for the start. -/
  | ready {a : Alarm} {notice : Notice} (hloaded : f.loaded = .ok (some a))
      (hstart : f.now < a.start) :
      Handled zone f ⟨[notice.message zone], [.schedule a.id a.start], .ok (some notice)⟩
  /-- The run is to start now. -/
  | started {a : Alarm} {finish : Instant} (hloaded : f.loaded = .ok (some a))
      (hstart : a.start ≤ f.now) (hfinish : a.endTime = .ok finish) :
      Handled zone f ⟨[(Notice.startNow a.deviceName finish).message zone], [],
        .ok (some (.startNow a.deviceName finish))⟩
  /-- The run is to start now and has no end. -/
  | endless {a : Alarm} {e : RangeError} (hloaded : f.loaded = .ok (some a))
      (hstart : a.start ≤ f.now) (hend : a.endTime = .error e) :
      Handled zone f ⟨[], [], .error (.range e)⟩

/-- **The handling of a fired alarm ends in one of five ways.** -/
theorem handled_handle (zone : Zone) (f : Finding) : Handled zone f (handle zone f) := by
  rw [handle]
  cases hloaded : f.loaded with
  | error e => exact .unanswered hloaded
  | ok o =>
    cases o with
    | none => exact .gone hloaded
    | some a =>
      dsimp only
      by_cases hstart : f.now < a.start
      · -- There is always a time to fire again, since no lead is taken off the start.
        have hdue : firstFire f.now a.start .zero = .ok a.start :=
          firstFire_eq_ok_iff_max.mpr ⟨a.start, a.start.sub_zero, (max_eq_right hstart.le).symm⟩
        rw [Notice.forAlarm, if_pos hstart]
        dsimp only
        rw [hdue]
        exact .ready hloaded hstart
      · rw [Notice.forAlarm, if_neg hstart]
        cases hend : a.endTime with
        | error e => exact .endless hloaded (not_lt.mp hstart) hend
        | ok finish => exact .started hloaded (not_lt.mp hstart) hend

/-- What is said of an alarm: ahead of its start to get ready, and from its start on to start now
and until when. -/
theorem forAlarm_eq_ok_iff {a : Alarm} {now : Instant} {notice : Notice} :
    Notice.forAlarm a now = .ok notice ↔
      now < a.start ∧
          notice = .getReady a.deviceName (Notice.minutesOf (a.start.since now).seconds) ∨
        a.start ≤ now ∧ ∃ finish, a.endTime = .ok finish ∧
          notice = .startNow a.deviceName finish := by
  rw [Notice.forAlarm]
  by_cases hstart : now < a.start
  · simp [hstart, eq_comm]
  · rw [if_neg hstart]
    cases a.endTime with
    | error e => simp [hstart, bind, Except.bind]
    | ok finish => simp [hstart, not_lt.mp hstart, bind, Except.bind, pure, Except.pure, eq_comm]

/-- Out of range is only the end of a run that is to start now. -/
theorem exists_of_result_eq_range {e : RangeError}
    (h : (handle zone f).result = .error (.range e)) :
    ∃ a, f.loaded = .ok (some a) ∧ a.start ≤ f.now ∧ ¬ a.HasEnd := by
  have hcases := handled_handle zone f
  generalize handle zone f = report at h hcases
  cases hcases with
  | unanswered _ => cases h
  | gone _ => cases h
  | ready _ _ => cases h
  | started _ _ _ => cases h
  | @endless a e' hloaded hstart hend =>
    refine ⟨a, hloaded, hstart, ?_⟩
    rintro ⟨finish, hfinish⟩
    cases hend.symm.trans hfinish

/-- A run that is to start now and has no end leaves nothing behind. -/
theorem handle_of_not_hasEnd (zone : Zone) {a : Alarm} (hloaded : f.loaded = .ok (some a))
    (hstart : a.start ≤ f.now) (hend : ¬ a.HasEnd) :
    ∃ e, handle zone f = ⟨[], [], .error (.range e)⟩ := by
  rw [handle, hloaded]
  dsimp only
  rw [Notice.forAlarm, if_neg (not_lt.mpr hstart)]
  cases he : a.endTime with
  | error e => exact ⟨e, rfl⟩
  | ok finish => exact absurd ⟨finish, he⟩ hend

/-- A stored alarm shows its notice, and ahead of its start its timer is set for the start. -/
theorem handle_of_loaded (zone : Zone) {a : Alarm} {notice : Notice}
    (hloaded : f.loaded = .ok (some a)) (hnotice : Notice.forAlarm a f.now = .ok notice) :
    handle zone f = ⟨[notice.message zone],
      if f.now < a.start then [.schedule a.id a.start] else [], .ok (some notice)⟩ := by
  rw [handle, hloaded]
  dsimp only
  rw [hnotice]
  by_cases hstart : f.now < a.start
  · have hdue : firstFire f.now a.start .zero = .ok a.start :=
      firstFire_eq_ok_iff_max.mpr ⟨a.start, a.start.sub_zero, (max_eq_right hstart.le).symm⟩
    rw [Notice.forAlarm, if_pos hstart] at hnotice
    obtain rfl := Except.ok.inj hnotice
    rw [if_pos hstart]
    dsimp only
    rw [hdue]
  · rw [Notice.forAlarm, if_neg hstart] at hnotice
    rw [if_neg hstart]
    cases hend : a.endTime with
    | error e =>
      rw [hend] at hnotice
      cases hnotice
    | ok finish =>
      rw [hend] at hnotice
      obtain rfl := Except.ok.inj hnotice
      rfl

end Household.Firing
