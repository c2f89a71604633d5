import Mathlib.Algebra.Order.Floor.Semiring
import Mathlib.Data.List.Find
import Mathlib.Data.List.TakeWhile
import Mathlib.Data.Rat.Floor
import Household.Proofs.Instant.Order
import Household.Proofs.Timer.Registrations

/-!
# Napping Up to the Due Time

A timer looks at the clock, naps for the time that is left but no longer than the longest nap, and
looks again. What the clock shows is up to others: it can stand still, jump and go back. So the naps
need not come to an end, but they end with the first reading that is not before the due time. If the
clock goes on at least by every nap, the time that is left shrinks by the longest nap each time but
the last; if it goes on by nothing else, the last nap ends at the due time itself.

A due time in a leap second is no reading outside leap seconds, so that no nap ends at it. If its
leap second is the last one of a day, the readings of the next second still leave some time; if it
is within a day, there can be one second more at midnight than there was before.

## Main results

* `naps_eq`: the naps for any readings and any due time.
* `length_naps_le`: how many naps there are if the clock does not lag behind.
* `getElem?_length_naps`: where the last nap ends if the clock goes on by the naps.
* `Scheduler.Course.run_looks`: what the task of a registration does at these readings.
* `lands_naps`: all together.
* `not_lands_of_leap`: what is different in leap seconds.
-/

namespace Household

variable {longest : Span} {due : Instant} {readings : List Instant}

/-! ### The naps -/

/-- The nap for the time that is left. -/
def napFor (longest : Span) (due now : Instant) : Span :=
  ⟨min (due.since now).nanos longest.nanos⟩

/-- There is a nap as long as there is time left. -/
theorem nap?_eq_some_iff {now : Instant} {d : Span} :
    nap? longest due now = some d ↔ 0 < (due.since now).nanos ∧ d = napFor longest due now := by
  rw [nap?]
  split
  · next hle => simp [hle]
  · next hlt => simp [Int.not_le.mp hlt, napFor, eq_comm]

/-- Naps after a reading that leaves no time. -/
theorem naps_cons_of_none {now : Instant} (h : nap? longest due now = none) :
    naps longest due (now :: readings) = ([], true) := by
  rw [naps, h]

/-- Naps after a reading that leaves some time. -/
theorem naps_cons_of_some {now : Instant} {d : Span} (h : nap? longest due now = some d) :
    naps longest due (now :: readings) =
      (d :: (naps longest due readings).1, (naps longest due readings).2) := by
  rw [naps, h]

/-- **The naps are those for the readings up to the first one that leaves no time**, with which they
end. -/
theorem naps_eq (longest : Span) (due : Instant) (readings : List Instant) :
    naps longest due readings =
      ((readings.takeWhile fun r => 0 < (due.since r).nanos).map (napFor longest due),
        readings.any fun r => (due.since r).nanos ≤ 0) := by
  induction readings with
  | nil => rfl
  | cons r readings ih =>
    cases hnap : nap? longest due r with
    | none =>
      have hle := (nap?_eq_none_iff longest due r).mp hnap
      rw [naps_cons_of_none hnap]
      simp [hle, Int.not_lt.mpr hle]
    | some d =>
      obtain ⟨hlt, rfl⟩ := nap?_eq_some_iff.mp hnap
      rw [naps_cons_of_some hnap, ih]
      simp [hlt, Int.not_le.mpr hlt]

/-- Naps that have not ended have been taken after every reading. -/
theorem length_naps_of_not_ended (h : (naps longest due readings).2 = false) :
    (naps longest due readings).1.length = readings.length := by
  induction readings with
  | nil => rfl
  | cons r readings ih =>
    cases hnap : nap? longest due r with
    | none =>
      rw [naps_cons_of_none hnap] at h
      cases h
    | some d =>
      rw [naps_cons_of_some hnap] at h ⊢
      exact congrArg Nat.succ (ih h)

/-! ### The time that is left -/

/-- The instant lies in a leap second at the end of a day. -/
def Instant.EndsDay (t : Instant) : Prop :=
  t.isLeap = true ∧ t.secondOfDay = 86399

/-- The instant lies in a leap second within a day. -/
def Instant.IsWithinDay (t : Instant) : Prop :=
  t.isLeap = true ∧ t.secondOfDay ≠ 86399

/-- What is left before the due time are its nanoseconds without those of the reading. -/
def CountsDown (due : Instant) (readings : List Instant) : Prop :=
  ∀ r ∈ readings, (due.since r).nanos = due.nanos - r.nanos

/-- There is time left as long as the due time is not reached. -/
def RunsOut (due : Instant) (readings : List Instant) : Prop :=
  ∀ r ∈ readings, 0 < (due.since r).nanos ↔ r < due

/-- Away from leap seconds the time counts down. -/
theorem countsDown_of_not_isLeap (hdue : due.isLeap = false)
    (hreadings : ∀ r ∈ readings, r.isLeap = false) : CountsDown due readings :=
  fun r hr => Instant.nanos_since hdue (hreadings r hr)

/-- So it does up to a leap second at the end of a day, after which no time of day is. -/
theorem Instant.EndsDay.countsDown (hdue : due.EndsDay)
    (hreadings : ∀ r ∈ readings, r.isLeap = false) : CountsDown due readings := by
  intro r hr
  obtain ⟨-, hlast⟩ := hdue
  have hbefore : ¬ due.secondOfDay < r.secondOfDay := by
    rw [hlast, Instant.secondOfDay]
    omega
  simp only [Instant.since, hreadings r hr, hbefore, Bool.false_eq_true, false_and, and_false,
    if_false, Instant.nanos, Instant.perSecond]
  omega

/-- Away from leap seconds the time runs out at the due time. -/
theorem runsOut_of_not_isLeap (hdue : due.isLeap = false)
    (hreadings : ∀ r ∈ readings, r.isLeap = false) : RunsOut due readings := by
  intro r hr
  rw [Instant.nanos_since hdue (hreadings r hr),
    Instant.lt_iff_nanos_lt (hreadings r hr) hdue, Int.sub_pos]

/-- So it does at a leap second within a day, after which the next second is a later time of day. -/
theorem Instant.IsWithinDay.runsOut (hdue : due.IsWithinDay)
    (hreadings : ∀ r ∈ readings, r.isLeap = false) : RunsOut due readings := by
  intro r hr
  obtain ⟨hleap, hinner⟩ := hdue
  have hrleap := hreadings r hr
  have hnano := due.nano_lt
  have hleap' : 1000000000 ≤ due.nano := by simpa [Instant.isLeap] using hleap
  have hnano' := (Instant.isLeap_eq_false_iff r).mp hrleap
  -- The leap second counts as the second before it for readings at a later time of day.
  by_cases hlate : due.secondOfDay < r.secondOfDay
  · simp only [Instant.since, hleap, hrleap, hlate, Bool.false_eq_true, false_and, true_and,
      if_false, if_true, Instant.perSecond, Instant.lt_def]
    simp only [Instant.secondOfDay] at hinner hlate
    omega
  · simp only [Instant.since, hrleap, hlate, Bool.false_eq_true, false_and, and_false, if_false,
      Instant.perSecond, Instant.lt_def]
    simp only [Instant.secondOfDay] at hinner hlate
    omega

/-- Where the time runs out at the due time, the naps end at readings that are not before it. -/
theorem RunsOut.nap?_eq_none_iff_le (h : RunsOut due readings) (longest : Span) {r : Instant}
    (hr : r ∈ readings) : nap? longest due r = none ↔ due ≤ r := by
  rw [nap?_eq_none_iff, ← not_lt, h r hr, not_lt]

/-! ### Rounds -/

/-- After the reading `r` the nap `d` is taken, and `r'` is read at its end. -/
def IsRound (longest : Span) (due : Instant) (readings : List Instant)
    (r : Instant) (d : Span) (r' : Instant) : Prop :=
  ∃ i : Nat, readings[i]? = some r ∧ (naps longest due readings).1[i]? = some d ∧
    readings[i + 1]? = some r'

/-- The first round. -/
theorem IsRound.head {r r' : Instant} {d : Span} (h : nap? longest due r = some d)
    (hr' : readings.head? = some r') : IsRound longest due (r :: readings) r d r' := by
  refine ⟨0, rfl, ?_, ?_⟩
  · rw [naps_cons_of_some h]
    rfl
  · rw [List.getElem?_cons_succ, ← List.head?_eq_getElem?, hr']

/-- The rounds after the first one. -/
theorem IsRound.tail {first r r' : Instant} {d d' : Span} (h : nap? longest due first = some d)
    (hround : IsRound longest due readings r d' r') :
    IsRound longest due (first :: readings) r d' r' := by
  obtain ⟨i, hr, hd, hr'⟩ := hround
  refine ⟨i + 1, hr, ?_, hr'⟩
  rw [naps_cons_of_some h]
  exact hd

/-- The clock goes on at least by the nap. -/
def GoesOn (r : Instant) (d : Span) (r' : Instant) : Prop :=
  ∃ u, r.add d = .ok u ∧ u ≤ r'

/-- **If the clock does not lag behind, there are no more naps than it takes of the longest one to
fill the time that is left at first.** -/
theorem length_naps_le (hlongest : 0 < longest.nanos) (hdue : CountsDown due readings)
    (hreadings : ∀ r ∈ readings, r.isLeap = false)
    (hrounds : ∀ r d r', IsRound longest due readings r d r' → GoesOn r d r') {n : Nat}
    (hn : ∀ first, readings.head? = some first → (due.since first).nanos ≤ n * longest.nanos) :
    (naps longest due readings).1.length ≤ n := by
  induction readings generalizing n with
  | nil => exact Nat.zero_le n
  | cons first readings ih =>
    have hleft := hn first rfl
    obtain ⟨hfirst, hrest⟩ := List.forall_mem_cons.mp hreadings
    obtain ⟨hduefirst, hduerest⟩ := List.forall_mem_cons.mp hdue
    cases hnap : nap? longest due first with
    | none =>
      rw [naps_cons_of_none hnap]
      exact Nat.zero_le n
    | some d =>
      obtain ⟨hlt, hd⟩ := nap?_eq_some_iff.mp hnap
      rw [naps_cons_of_some hnap]
      cases n with
      | zero => omega
      | succ n =>
        refine Nat.succ_le_succ
          (ih hduerest hrest (fun r d r' h => hrounds r d r' (.tail hnap h)) ?_)
        intro next hnext
        have hleap : next.isLeap = false := hrest next (List.mem_of_head? hnext)
        obtain ⟨u, hadd, hle⟩ := hrounds first d next (.head hnap hnext)
        obtain ⟨huleap, hu⟩ := (Instant.add_eq_ok_iff hfirst).mp hadd
        rw [Instant.le_iff_nanos_le huleap hleap, hu, hd] at hle
        -- Either the nap was the longest one, or it was all the time that was left.
        simp only [napFor, hduefirst] at hle hleft
        rw [hduerest next (List.mem_of_head? hnext)]
        rw [Nat.cast_succ, Int.add_mul, Int.one_mul] at hleft
        have hnonneg : 0 ≤ (n : Int) * longest.nanos :=
          Int.mul_nonneg (Int.natCast_nonneg n) hlongest.le
        omega

/-- The same, with the number of the longest naps as a quotient that is rounded up. -/
theorem length_naps_le_ceil (hlongest : 0 < longest.nanos) {first : Instant}
    {rest : List Instant} (hdue : CountsDown due (first :: rest))
    (hreadings : ∀ r ∈ first :: rest, r.isLeap = false)
    (hrounds : ∀ r d r', IsRound longest due (first :: rest) r d r' → GoesOn r d r') :
    (naps longest due (first :: rest)).1.length ≤
      ⌈(due.nanos - first.nanos : ℚ) / longest.nanos⌉₊ := by
  refine length_naps_le hlongest hdue hreadings hrounds fun first' hfirst' => ?_
  obtain rfl := Option.some.inj hfirst'
  have hpos : (0 : ℚ) < longest.nanos := by exact_mod_cast hlongest
  have hceil := Nat.le_ceil ((due.nanos - first.nanos : ℚ) / longest.nanos)
  rw [div_le_iff₀ hpos] at hceil
  rw [hdue first List.mem_cons_self]
  exact_mod_cast hceil

/-- **If the clock goes on by the naps and by nothing else, the last nap ends at the due time.** -/
theorem getElem?_length_naps (hdue : due.isLeap = false)
    (hreadings : ∀ r ∈ readings, r.isLeap = false)
    (hrounds : ∀ r d r', IsRound longest due readings r d r' → r.add d = .ok r')
    (hfirst : ∀ first, readings.head? = some first → first ≤ due)
    (hended : (naps longest due readings).2 = true) :
    readings[(naps longest due readings).1.length]? = some due := by
  induction readings with
  | nil => cases hended
  | cons first readings ih =>
    have hle := hfirst first rfl
    obtain ⟨hleap, hrest⟩ := List.forall_mem_cons.mp hreadings
    cases hnap : nap? longest due first with
    | none =>
      have hpast := (runsOut_of_not_isLeap hdue hreadings).nap?_eq_none_iff_le longest
        List.mem_cons_self |>.mp hnap
      rw [naps_cons_of_none hnap, le_antisymm hle hpast]
      rfl
    | some d =>
      rw [naps_cons_of_some hnap] at hended ⊢
      refine ih hrest (fun r d r' h => hrounds r d r' (.tail hnap h)) (fun next hnext => ?_) hended
      -- A nap is no longer than the time that is left.
      obtain ⟨hnextleap, hnanos⟩ :=
        (Instant.add_eq_ok_iff hleap).mp (hrounds first d next (.head hnap hnext))
      obtain ⟨-, rfl⟩ := nap?_eq_some_iff.mp hnap
      rw [napFor, Instant.nanos_since hdue hleap] at hnanos
      rw [Instant.le_iff_nanos_le hnextleap hdue]
      dsimp only at hnanos
      omega

/-- A reading that leaves no time ends the naps, if none did before it. -/
theorem naps_of_nap?_eq_none (before after : List Instant) {r : Instant}
    (hr : nap? longest due r = none) :
    (naps longest due (before ++ r :: after)).2 = true ∧
      (naps longest due (before ++ r :: after)).1.length ≤ before.length := by
  induction before with
  | nil =>
    rw [List.nil_append, naps_cons_of_none hr]
    exact ⟨rfl, Nat.le_refl 0⟩
  | cons t before ih =>
    rw [List.cons_append]
    cases hnap : nap? longest due t with
    | none =>
      rw [naps_cons_of_none hnap]
      exact ⟨rfl, Nat.zero_le _⟩
    | some d =>
      rw [naps_cons_of_some hnap]
      exact ⟨ih.1, Nat.succ_le_succ ih.2⟩

/-- There is a nap after each of the readings that come first and leave some time. -/
theorem length_naps_append (longest : Span) {before : List Instant}
    (hbefore : ∀ t ∈ before, 0 < (due.since t).nanos) (after : List Instant) :
    (naps longest due (before ++ after)).1.length =
        before.length + (naps longest due after).1.length ∧
      (naps longest due (before ++ after)).2 = (naps longest due after).2 := by
  induction before with
  | nil => simp
  | cons t before ih =>
    obtain ⟨hlt, hbefore⟩ := List.forall_mem_cons.mp hbefore
    have hnap : nap? longest due t = some (napFor longest due t) :=
      nap?_eq_some_iff.mpr ⟨hlt, rfl⟩
    obtain ⟨hlength, hended⟩ := ih hbefore
    rw [List.cons_append, naps_cons_of_some hnap]
    refine ⟨?_, hended⟩
    rw [List.length_cons, hlength, List.length_cons]
    omega

/-- Every nap is taken after its reading. -/
theorem exists_nap?_of_getElem? {i : Nat} {d : Span}
    (h : (naps longest due readings).1[i]? = some d) :
    ∃ r, readings[i]? = some r ∧ nap? longest due r = some d := by
  rw [naps_eq, List.getElem?_map, Option.map_eq_some_iff] at h
  obtain ⟨r, hr, rfl⟩ := h
  have hpos := List.mem_takeWhile_imp (List.mem_of_getElem? hr)
  obtain ⟨hi, hget⟩ := List.getElem?_eq_some_iff.mp hr
  refine ⟨r, ?_, nap?_eq_some_iff.mpr ⟨of_decide_eq_true hpos, rfl⟩⟩
  rw [List.prefix_iff_getElem?.mp (List.takeWhile_prefix _) i hi, hget]

/-- A nap takes some time, and is no longer than the longest nap and the time that is left. -/
theorem exists_bounds_of_getElem? (hlongest : 0 < longest.nanos) {i : Nat} {d : Span}
    (h : (naps longest due readings).1[i]? = some d) :
    ∃ r, readings[i]? = some r ∧ 0 < d.nanos ∧ d.nanos ≤ longest.nanos ∧
      d.nanos ≤ (due.since r).nanos := by
  obtain ⟨r, hr, hnap⟩ := exists_nap?_of_getElem? h
  exact ⟨r, hr, nap_le_of_nap? hlongest hnap⟩

/-! ### The task of a registration -/

namespace Scheduler

/-- The task at a place looks at the clock at these monotonic times and finds these readings. -/
def looks (n : Nat) (ls : List (Int × Instant)) : List Move :=
  ls.flatMap fun l => [.clock l.2, .wake n l.1]

namespace Course

variable {c : Course} {n : Nat} {id : Int64} {wakes : Int}

/-- The first look, and then the others. -/
theorem run_looks_cons (c : Course) (n : Nat) (l : Int × Instant) (ls : List (Int × Instant)) :
    c.run (looks n (l :: ls)) =
      ((c.step (.clock l.2)).step (.wake n l.1)).run (looks n ls) := by
  rw [looks, List.flatMap_cons, run, List.foldl_append]
  simp only [List.foldl_cons, List.foldl_nil, run, looks]

/-- A task that does not nap sends nothing. -/
theorem sent_run_looks_of_forall_not_naps (h : ∀ id due wakes, ¬ c.scheduler.Naps n id due wakes)
    (ls : List (Int × Instant)) : (c.run (looks n ls)).sent = c.sent := by
  induction ls generalizing c with
  | nil => rfl
  | cons l ls ih =>
    have hstep : (c.step (.clock l.2)).step (.wake n l.1) = { c with now := l.2 } := by
      simp [step, wake_of_forall_not_naps h]
    rw [run_looks_cons, hstep]
    exact ih (c := { c with now := l.2 }) h

/-- A task that naps and finds no time left sends its id, and does not nap again. -/
theorem look_of_none (h : c.scheduler.Naps n id due wakes) {l : Int × Instant}
    (hnap : nap? c.scheduler.longestNap due l.2 = none) :
    (c.step (.clock l.2)).step (.wake n l.1) =
      ⟨c.scheduler.setStage n .sent, l.2, c.sent ++ [⟨n, id, l.2⟩]⟩ := by
  simp [step, h.wake_of_due hnap]

/-- A task that naps and finds some time left naps again from its look on. -/
theorem look_of_some (h : c.scheduler.Naps n id due wakes) {l : Int × Instant} {d : Span}
    (hnap : nap? c.scheduler.longestNap due l.2 = some d) :
    (c.step (.clock l.2)).step (.wake n l.1) =
      ⟨c.scheduler.setStage n (.napping (l.1 + d.nanos)), l.2, c.sent⟩ := by
  simp [step, h.wake_of_not_due hnap]

/-- **The task of a registration naps like this**: it sends its id at the first reading that leaves
no time, once, and until then sleeps for every nap from its look on. -/
theorem run_looks (h : c.scheduler.Naps n id due wakes) (ls : List (Int × Instant)) :
    (c.run (looks n ls)).sent = c.sent ++
        ((ls.map (·.2)).find? fun r => (due.since r).nanos ≤ 0).toList.map (⟨n, id, ·⟩) ∧
      ((naps c.scheduler.longestNap due (ls.map (·.2))).2 = false →
        ∃ wakes', (c.run (looks n ls)).scheduler.Naps n id due wakes' ∧
          (ls = [] → wakes' = wakes) ∧
          ∀ l d, ls.getLast? = some l → nap? c.scheduler.longestNap due l.2 = some d →
            wakes' = l.1 + d.nanos) := by
  induction ls generalizing c wakes with
  | nil =>
    refine ⟨(List.append_nil _).symm, fun _ => ⟨wakes, h, fun _ => rfl, fun l d hl => ?_⟩⟩
    cases hl
  | cons l ls ih =>
    rw [run_looks_cons, List.map_cons]
    cases hnap : nap? c.scheduler.longestNap due l.2 with
    | none =>
      have hle := (nap?_eq_none_iff _ _ _).mp hnap
      have hnot : ∀ id' due' wakes', ¬ (c.scheduler.setStage n .sent).Naps n id' due' wakes' := by
        intro id' due' wakes' hnaps
        simp [naps_setStage_iff h] at hnaps
      rw [look_of_none h hnap, naps_cons_of_none hnap]
      refine ⟨?_, nofun⟩
      rw [sent_run_looks_of_forall_not_naps hnot]
      simp [hle]
    | some d =>
      have hlt := (nap?_eq_some_iff.mp hnap).1
      have hnaps : (c.scheduler.setStage n (.napping (l.1 + d.nanos))).Naps n id due
          (l.1 + d.nanos) := (naps_setStage_iff h).mpr (.inr ⟨rfl, rfl, rfl, rfl⟩)
      rw [look_of_some h hnap, naps_cons_of_some hnap]
      obtain ⟨hsent, hwakes⟩ :=
        ih (c := ⟨c.scheduler.setStage n (.napping (l.1 + d.nanos)), l.2, c.sent⟩) hnaps
      refine ⟨?_, fun hended => ?_⟩
      · rw [hsent, List.find?_cons_of_neg (by simpa using hlt)]
      · obtain ⟨wakes', hnaps', hnil, hlast⟩ := hwakes hended
        refine ⟨wakes', hnaps', nofun, fun l' d' hl' hd' => ?_⟩
        cases ls with
        | nil =>
          obtain rfl : l = l' := Option.some.inj hl'
          obtain rfl : d = d' := Option.some.inj (hnap.symm.trans hd')
          exact hnil rfl
        | cons next ls => exact hlast l' d' hl' hd'

end Course

end Scheduler

/-! ### What holds for any readings -/

/-- The naps end where the due time is reached. -/
structure Ends (longest : Span) (due : Instant) (readings : List Instant) : Prop where
  /-- They end with the first reading that is not before the due time, after a nap for each of the
  readings before it. -/
  ends : ∀ before r after, readings = before ++ r :: after → (∀ t ∈ before, t < due) → due ≤ r →
    (naps longest due readings).2 = true ∧
      (naps longest due readings).1.length = before.length
  /-- They go on as long as all readings are before the due time. -/
  goes_on : (∀ t ∈ readings, t < due) →
    (naps longest due readings).2 = false ∧
      (naps longest due readings).1.length = readings.length
  /-- A nap is taken after a reading before the due time. -/
  before : ∀ (i : Nat) d, (naps longest due readings).1[i]? = some d →
    ∃ r, readings[i]? = some r ∧ r < due
  /-- If the clock passes the due time during a nap and does not go back before it, that nap is the
  last. -/
  jump : ∀ (clock : Int → Instant) (moment : Int) (before : List Int) (t t' : Int)
    (after : List Int), readings = (before ++ t :: t' :: after).map clock → moment ≤ t' →
      (∀ u, moment ≤ u → due ≤ clock u) →
        (naps longest due readings).2 = true ∧
          (naps longest due readings).1.length ≤ before.length + 1
  /-- The task of a registration takes these naps: it sends its id at the first reading that is not
  before the due time, once, and until then sleeps for every nap from its look on. -/
  task : ∀ (c : Scheduler.Course) (n : Nat) (id : Int64) (wakes : Int)
    (ls : List (Int × Instant)), c.scheduler.longestNap = longest →
      c.scheduler.Naps n id due wakes → ls.map (·.2) = readings →
        (c.run (Scheduler.looks n ls)).sent =
            c.sent ++ (readings.find? (due ≤ ·)).toList.map (⟨n, id, ·⟩) ∧
          ((naps longest due readings).2 = false →
            ∃ wakes', (c.run (Scheduler.looks n ls)).scheduler.Naps n id due wakes' ∧
              ∀ l d, ls.getLast? = some l → nap? longest due l.2 = some d →
                wakes' = l.1 + d.nanos)

/-- The naps use up the time that is left. -/
structure Dwindles (longest : Span) (due : Instant) (readings : List Instant) : Prop where
  /-- This time is what the due time has more nanoseconds than the reading. -/
  left : CountsDown due readings
  /-- If the clock goes on at least by every nap, there are no more naps than it takes of the
  longest one to fill the time that is left at first, and then they end. -/
  few : ∀ first rest, readings = first :: rest →
    (∀ r d r', IsRound longest due readings r d r' → GoesOn r d r') →
      (naps longest due readings).1.length ≤
          ⌈(due.nanos - first.nanos : ℚ) / longest.nanos⌉₊ ∧
        (⌈(due.nanos - first.nanos : ℚ) / longest.nanos⌉₊ < readings.length →
          (naps longest due readings).2 = true)

/-- What holds of the naps that a timer takes for the readings of its clock. -/
structure Lands (longest : Span) (due : Instant) (readings : List Instant) : Prop extends
    Ends longest due readings, Dwindles longest due readings where
  /-- If the clock goes on by the naps and by nothing else, they end with the due time itself, if
  that is not past at first. -/
  arrives : ∀ first rest, readings = first :: rest → first ≤ due →
    (∀ r d r', IsRound longest due readings r d r' → r.add d = .ok r') →
      (naps longest due readings).2 = true →
        readings[(naps longest due readings).1.length]? = some due

/-- Where the time runs out at the due time, the naps end there. -/
theorem RunsOut.ends (h : RunsOut due readings) : Ends longest due readings where
  ends := by
    rintro before r after rfl hbefore hle
    obtain ⟨hcount, hended⟩ := length_naps_append longest
      (fun t ht => (h t (List.mem_append_left _ ht)).mpr (hbefore t ht)) (r :: after)
    have hnap :=
      (h.nap?_eq_none_iff_le longest (List.mem_append_right _ List.mem_cons_self)).mpr hle
    rw [hcount, hended, naps_cons_of_none hnap]
    exact ⟨rfl, rfl⟩
  goes_on := by
    intro hbefore
    obtain ⟨hcount, hended⟩ :=
      length_naps_append longest (fun t ht => (h t ht).mpr (hbefore t ht)) []
    rw [List.append_nil] at hcount hended
    exact ⟨hended, hcount⟩
  before := by
    intro i d hd
    obtain ⟨r, hr, hnap⟩ := exists_nap?_of_getElem? hd
    exact ⟨r, hr, (h r (List.mem_of_getElem? hr)).mp (nap?_eq_some_iff.mp hnap).1⟩
  jump := by
    rintro clock moment before t t' after rfl hmoment hclock
    have hsplit : (before ++ t :: t' :: after).map clock =
        (before ++ [t]).map clock ++ clock t' :: after.map clock := by simp
    have hnap := (h.nap?_eq_none_iff_le longest (List.mem_map_of_mem (by simp))).mpr
      (hclock t' hmoment)
    obtain ⟨hended, hcount⟩ :=
      naps_of_nap?_eq_none ((before ++ [t]).map clock) (after.map clock) hnap
    rw [← hsplit] at hended hcount
    exact ⟨hended, by simpa using hcount⟩
  task := by
    rintro c n id wakes ls rfl hnaps rfl
    obtain ⟨hsent, hnapping⟩ := Scheduler.Course.run_looks hnaps ls
    have hfind : ((ls.map (·.2)).find? fun r => (due.since r).nanos ≤ 0) =
        (ls.map (·.2)).find? (due ≤ ·) := by
      refine List.find?_congr fun r hr => decide_eq_decide.mpr ?_
      rw [← h.nap?_eq_none_iff_le c.scheduler.longestNap hr, nap?_eq_none_iff]
    refine ⟨hfind ▸ hsent, fun hended => ?_⟩
    obtain ⟨wakes', hnaps', -, hlast⟩ := hnapping hended
    exact ⟨wakes', hnaps', hlast⟩

/-- Where the time counts down, the naps use it up. -/
theorem CountsDown.dwindles (h : CountsDown due readings) (hlongest : 0 < longest.nanos)
    (hreadings : ∀ r ∈ readings, r.isLeap = false) : Dwindles longest due readings where
  left := h
  few := by
    rintro first rest rfl hrounds
    have hle := length_naps_le_ceil hlongest h hreadings hrounds
    refine ⟨hle, fun hlt => ?_⟩
    by_contra hended
    have hcount := length_naps_of_not_ended (by simpa using hended)
    exact absurd (hcount ▸ hle) (Nat.not_le.mpr hlt)

/-- **The naps of a timer end and land on the due time**, for every longest nap that takes some time
and all readings of the clock outside leap seconds.

For every due time each nap is the time that is left, but no longer than the longest nap; it takes
some time, and the naps end with the first reading that leaves no time. Outside leap seconds:

* This is the first reading that is not before the due time. If the clock passes the due time during
  a nap and does not go back, that nap is the last. This is what the task of a registration does,
  whatever else is registered.
* If the clock goes on at least by every nap, there are no more of them than it takes of the longest
  one to fill the time that is left at first.
* If it goes on by the naps and by nothing else, they end with the due time itself, if that is not
  past at first.

Of a due time in a leap second the first of these holds if it is one within a day, and the second if
it is one at the end of a day. The third does not hold of it, since it is none of the readings. -/
theorem lands_naps (hlongest : 0 < longest.nanos)
    (hreadings : ∀ r ∈ readings, r.isLeap = false) :
    naps longest due readings =
        ((readings.takeWhile fun r => 0 < (due.since r).nanos).map (napFor longest due),
          readings.any fun r => (due.since r).nanos ≤ 0) ∧
      (∀ (i : Nat) d, (naps longest due readings).1[i]? = some d →
        ∃ r, readings[i]? = some r ∧ 0 < d.nanos ∧ d.nanos ≤ longest.nanos ∧
          d.nanos ≤ (due.since r).nanos) ∧
      (due.isLeap = false → Lands longest due readings) ∧
      (due.IsWithinDay → Ends longest due readings) ∧
      (due.EndsDay → Dwindles longest due readings) := by
  refine ⟨naps_eq longest due readings, fun i d => exists_bounds_of_getElem? hlongest,
    fun hdue => ?_, fun hdue => (hdue.runsOut hreadings).ends,
    fun hdue => (hdue.countsDown hreadings).dwindles hlongest hreadings⟩
  exact
    { (runsOut_of_not_isLeap hdue hreadings).ends,
      (countsDown_of_not_isLeap hdue hreadings).dwindles hlongest hreadings with
      arrives := by
        rintro first rest rfl hfirst hrounds hended
        refine getElem?_length_naps hdue hreadings hrounds (fun first' hfirst' => ?_) hended
        obtain rfl := Option.some.inj hfirst'
        exact hfirst }

/-! ### Two days -/

/-- The instant so many seconds after the epoch, in the first two days. -/
def secondsOn (s : Fin 172800) : Instant :=
  { Instant.epoch with
    second := s
    first_le := by have := s.isLt; rw [Instant.firstSecond_eq]; omega
    le_last := by have := s.isLt; rw [Instant.lastSecond_eq]; omega
    leap_last := by simp [Instant.epoch] }

/-- What the clock shows to a timer for the fiftieth second that naps for twenty at most: it goes on
by the naps and by nothing else. -/
def steadyReadings : List Instant :=
  [secondsOn 0, secondsOn 20, secondsOn 40, secondsOn 50]

/-- The timer naps three times and lands on the fiftieth second. -/
theorem lands_naps_steady :
    Lands ⟨20000000000⟩ (secondsOn 50) steadyReadings ∧
      naps ⟨20000000000⟩ (secondsOn 50) steadyReadings =
        ([⟨20000000000⟩, ⟨20000000000⟩, ⟨10000000000⟩], true) ∧
      steadyReadings[3]? = some (secondsOn 50) := by
  have hlands : Lands ⟨20000000000⟩ (secondsOn 50) steadyReadings :=
    (lands_naps (by decide) (by decide)).2.2.1 rfl
  have hnaps : naps ⟨20000000000⟩ (secondsOn 50) steadyReadings =
      ([⟨20000000000⟩, ⟨20000000000⟩, ⟨10000000000⟩], true) := by decide
  refine ⟨hlands, hnaps, ?_⟩
  have hrounds : ∀ r d r', IsRound ⟨20000000000⟩ (secondsOn 50) steadyReadings r d r' →
      r.add d = .ok r' := by
    rintro r d r' ⟨i, hr, hd, hr'⟩
    rw [hnaps] at hd
    match i with
    | 0 => cases hr; cases hd; cases hr'; rfl
    | 1 => cases hr; cases hd; cases hr'; rfl
    | 2 => cases hr; cases hd; cases hr'; rfl
    | i + 3 => cases hd
  have harrives := hlands.arrives _ _ rfl (by decide) hrounds (by rw [hnaps])
  rwa [hnaps] at harrives

/-- An instant in the leap second at the end of a minute, in the first two days. -/
def leapSecondOf (minute : Fin 2880) (fraction : Fin 1000000000) : Instant :=
  { Instant.epoch with
    second := 60 * minute + 59
    nano := 1000000000 + fraction
    first_le := by have := minute.isLt; rw [Instant.firstSecond_eq]; omega
    le_last := by have := minute.isLt; rw [Instant.lastSecond_eq]; omega
    nano_lt := by have := fraction.isLt; omega
    leap_last := fun _ => by omega }

/-- **In leap seconds it is different.** The midnight after a leap second is not before it, but
leaves half a second for a nap. If the clock goes on by the naps and by nothing else, from two
seconds before midnight to a leap second in the first minute of the day, two naps are taken where
one of the longest would have done, and the last one does not end at the due time. Nor is the due
time among the readings if it is past at first. -/
theorem not_lands_of_leap :
    (leapSecondOf 1439 500000000 ≤ secondsOn 86400 ∧
      naps ⟨30000000000⟩ (leapSecondOf 1439 500000000) [secondsOn 86400] =
        ([⟨500000000⟩], false)) ∧
    (((leapSecondOf 1440 0).since (secondsOn 86398)).nanos = 61000000000 ∧
      naps ⟨61000000000⟩ (leapSecondOf 1440 0)
          [secondsOn 86398, secondsOn 86459, secondsOn 86460] =
        ([⟨61000000000⟩, ⟨1000000000⟩], true) ∧
      (secondsOn 86398).add ⟨61000000000⟩ = .ok (secondsOn 86459) ∧
      (secondsOn 86459).add ⟨1000000000⟩ = .ok (secondsOn 86460) ∧
      secondsOn 86460 ≠ leapSecondOf 1440 0) ∧
    naps ⟨30000000000⟩ (secondsOn 0) [secondsOn 1] = ([], true) := by
  refine ⟨⟨by decide, by decide⟩, ⟨by decide, by decide, rfl, rfl, by decide⟩, by decide⟩

end Household
