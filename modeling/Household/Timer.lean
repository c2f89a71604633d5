import Household.Instant.Basic
import Household.Table

/-!
# Timers

A timer waits until the wall clock reaches its due time. Since the wall clock can be set and can
stand still while the machine sleeps, a timer naps in short steps on the monotonic clock and looks
at the wall clock after each of them. There is one timer per id: setting it again replaces it,
cancelling removes it, and firing ends it.

## Main results

* `nap?_eq_none_iff`: the naps end exactly when the due time is not after the clock.
* `nap_le_of_nap?`: a nap is positive and no longer than the longest nap and the time that is left.
-/

namespace Household

/-- The nap that a timer takes after looking at the clock: the time that is left, but no more than
the longest nap; none if the timer is due. -/
def nap? (longest : Span) (due now : Instant) : Option Span :=
  let left := (due.since now).nanos
  if left ≤ 0 then none else some ⟨min left longest.nanos⟩

/-- The naps that a timer takes for a sequence of clock readings, and whether it has ended with the
last of them that it looked at. -/
def naps (longest : Span) (due : Instant) : List Instant → List Span × Bool
  | [] => ([], false)
  | now :: readings =>
    match nap? longest due now with
    | none => ([], true)
    | some d => let (ds, ended) := naps longest due readings; (d :: ds, ended)

/-- A timer that has not fired: its due time, and the monotonic time in nanoseconds at which its
current nap ends. -/
structure Timer where
  due : Instant
  wakes : Int
deriving DecidableEq

/-- The timers that have not fired, by id. -/
structure Timers where
  longestNap : Span
  waiting : Table Timer

namespace Timers

/-- The longest nap unless another one is asked for: thirty seconds. -/
def defaultNap : Span := ⟨30 * 1000000000⟩

/-- No timers. -/
def idle (longestNap : Span) : Timers := ⟨longestNap, .empty⟩

/-- Sets the timer of an id at a monotonic time, in place of one that is there. It looks at the
clock at once. -/
def schedule (ts : Timers) (id : Int64) (due : Instant) (elapsed : Int) : Timers :=
  { ts with waiting := ts.waiting.insert id ⟨due, elapsed⟩ }

/-- Removes the timer of an id; nothing happens if there is none. -/
def cancel (ts : Timers) (id : Int64) : Timers :=
  { ts with waiting := ts.waiting.erase id }

/-- The number of timers that have not fired. -/
def pending (ts : Timers) : Nat :=
  ts.waiting.entries.length

/-- One timer looks at the clock: it fires and ends, or naps again. -/
def look (ts : Timers) (elapsed : Int) (now : Instant) (id : Int64) : Timers × Bool :=
  match ts.waiting.get? id with
  | none => (ts, false)
  | some t =>
    match nap? ts.longestNap t.due now with
    | none => (ts.cancel id, true)
    | some d =>
      ({ ts with waiting := ts.waiting.insert id { t with wakes := elapsed + d.nanos } }, false)

end Timers

/-! ### Naps -/

/-- The naps end exactly when the due time is not after the clock. -/
theorem nap?_eq_none_iff (longest : Span) (due now : Instant) :
    nap? longest due now = none ↔ (due.since now).nanos ≤ 0 := by
  unfold nap?
  dsimp only
  split <;> simp_all

/-- A nap is positive and no longer than the longest nap and the time that is left. -/
theorem nap_le_of_nap? {longest d : Span} {due now : Instant} (hl : 0 < longest.nanos)
    (h : nap? longest due now = some d) :
    0 < d.nanos ∧ d.nanos ≤ longest.nanos ∧ d.nanos ≤ (due.since now).nanos := by
  unfold nap? at h
  dsimp only at h
  split at h
  · exact absurd h (by simp)
  · obtain rfl := Option.some.inj h
    refine ⟨?_, Int.min_le_right _ _, Int.min_le_left _ _⟩
    dsimp only
    omega

end Household
