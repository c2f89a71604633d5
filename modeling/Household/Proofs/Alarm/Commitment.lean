import Household.Proofs.Alarm.Convergence
import Household.Proofs.Settings

/-!
# What Follows a Commit

A diff is committed before its alarms are armed and disarmed one after the other, the inserted ones
by ascending id and then the deleted ones. Arming looks for the start less the lead, which there is
not when the lead reaches back beyond the first instant. The sequence then ends: the alarms from
there on are stored and never armed, and no deleted alarm loses its timer. Later passes compare ids
alone, so that they find nothing to make up for.

## Main results

* `Pass.carriedThrough_carryOut_iff`: which commands carry a diff through.
* `Pass.carriedThrough_iff`: a committed diff is carried through exactly if the lead fits before
  the start of every inserted alarm.
-/

namespace Household

namespace Pass

variable {now : Instant} {lead : Span}

/-! ### Diffs carried through -/

/-- The scheduler is told to set the timer of every inserted alarm and to cancel that of every
deleted one. -/
def CarriedThrough (d : Diff) (commands : List TimerCommand) : Prop :=
  (∀ a ∈ d.toInsert, ∃ due, .schedule a.id due ∈ commands) ∧
    ∀ a ∈ d.toDelete, .cancel a.id ∈ commands

/-- The commands of a diff carry it through exactly if every inserted alarm has a time to fire. -/
theorem carriedThrough_carryOut_iff {d : Diff} (hd : (d.toInsert.map (·.id)).Pairwise (· < ·)) :
    CarriedThrough d (carryOut now lead d.intents).1 ↔
      ∀ a ∈ d.toInsert, ∃ due, firstFire now a.start lead = .ok due := by
  constructor
  · rintro ⟨harmed, -⟩ a ha
    obtain ⟨due, hdue⟩ := harmed a ha
    obtain ⟨b, -, hall, hid, -⟩ := (schedule_mem_carryOut_iff hd).mp hdue
    exact hall a ha (Int64.le_of_eq hid.symm)
  · intro hfires
    refine ⟨fun a ha => ?_, fun a ha => ?_⟩
    · obtain ⟨due, hdue⟩ := hfires a ha
      exact ⟨due, (schedule_mem_carryOut_iff hd).mpr
        ⟨a, ha, fun b hb _ => hfires b hb, rfl, hdue⟩⟩
    · exact cancel_mem_carryOut_iff.mpr ⟨hfires, List.mem_map_of_mem ha⟩

/-- A pass fails after the commit when an inserted alarm has no time to fire. -/
theorem result_committed_of_not_exists {view : View} (store : Store) {d : Diff} {a : Alarm}
    (ha : a ∈ d.toInsert) (hno : ¬ ∃ due, firstFire view.now a.start view.lead = .ok due) :
    (committed view store d).result = .error (.range .difference) := by
  rw [committed]
  cases hout : (carryOut view.now view.lead d.intents).2 with
  | none => exact absurd (carryOut_intents_eq_none_iff.mp hout a ha) hno
  | some e =>
    obtain rfl := eq_difference_of_carryOut hout
    rfl

/-- **A committed diff is carried through exactly if the lead fits before the start of every
inserted alarm.** Where it does not, the commands end before the first such alarm, and no later
pass over the same histories tells the scheduler anything. -/
theorem carriedThrough_iff {zones : String → Option Zone} {vars : Variables} {settings : Settings}
    (hsettings : Settings.readWith zones vars = .ok settings) {deviceTasks : List DeviceTask}
    {store store' : Store} (hk : store.Keyed) {stored : List Alarm} (hall : store.all = .ok stored)
    {diff : Diff} (hdiff : diff = Diff.reconcile deviceTasks stored)
    (happly : store.apply diff = .ok store') (now : Instant) :
    let report := run ⟨.ok deviceTasks, now, settings.lead⟩ store
    report.store = store' ∧
      (CarriedThrough diff report.commands ↔ ∀ a ∈ diff.toInsert, a.LeadFits settings.lead) ∧
      (∀ id due, .schedule id due ∈ report.commands ↔
        ∃ a ∈ diff.toInsert, (∀ b ∈ diff.toInsert, b.id ≤ a.id → b.LeadFits settings.lead) ∧
          a.id = id ∧ firstFire now a.start settings.lead = .ok due) ∧
      (∀ id, .cancel id ∈ report.commands ↔
        (∀ b ∈ diff.toInsert, b.LeadFits settings.lead) ∧ id ∈ diff.toDelete.map (·.id)) ∧
      ((∃ a ∈ diff.toInsert, ¬ a.LeadFits settings.lead) →
        report.result = .error (.range .difference) ∧
          ∀ now' lead',
            run ⟨.ok deviceTasks, now', lead'⟩ store' = ⟨.ok ⟨[], []⟩, store', []⟩) := by
  have hfits : ∀ a : Alarm, a.LeadFits settings.lead ↔
      ∃ due, firstFire now a.start settings.lead = .ok due :=
    fun a => a.leadFits_iff (Settings.lead_nonneg_of_readWith hsettings) now
  subst hdiff
  obtain rfl := Store.eq_written_of_apply happly
  intro report
  have hreport : report = committed ⟨.ok deviceTasks, now, settings.lead⟩ store
      (Diff.reconcile deviceTasks stored) := run_eq_committed rfl hall happly
  rw [hreport]
  simp only [hfits]
  refine ⟨rfl, carriedThrough_carryOut_iff Diff.pairwise_toInsert, fun id due => ?_,
    fun id => ?_, ?_⟩
  · exact schedule_mem_carryOut_iff Diff.pairwise_toInsert
  · exact cancel_mem_carryOut_iff
  · rintro ⟨a, ha, hno⟩
    exact ⟨result_committed_of_not_exists store ha hno,
      fun now' lead' => run_written hk rfl hall⟩

/-! ### A lead of two million years -/

/-- The least that has to be set, and a number of minutes ahead of the starts. -/
def minutesAhead (minutes : String) : Variables := fun name =>
  if name = "HOMETASK_API_URL" then some "http://localhost"
  else if name = "HOMETASK_NOTIFY_BEFORE_MINUTES" then some minutes
  else none

/-- The settings with a lead and otherwise the least that has to be set. -/
def leastSettings (lead : Span) : Settings where
  apiUrl := "http://localhost"
  databaseUrl := "hometask.db"
  sessionFile := "session.json"
  credentials := none
  lead
  syncSchedule := "0 */15 * * * *"
  zone := .universal
  bind := "127.0.0.1:8080"
  notifyCommand := none

/-- What there is to do for the laundry: one alarm to insert, one to delete. -/
def laundryDiff : Diff :=
  ⟨[⟨105, "Washer", noon, 300000⟩], [⟨7, "Washer", .epoch, 300000⟩]⟩

/-- Ten minutes ahead, both alarms of the laundry are told to the scheduler. -/
theorem carriedThrough_laundry :
    Settings.readWith Settings.universalOnly (minutesAhead "10") =
        .ok (leastSettings ⟨600000000000⟩) ∧
      (Store.database laundryDatabase).Keyed ∧
      (Store.database laundryDatabase).all = .ok [⟨7, "Washer", .epoch, 300000⟩] ∧
      laundryDiff = Diff.reconcile laundryHistories [⟨7, "Washer", .epoch, 300000⟩] ∧
      (Store.database laundryDatabase).apply laundryDiff =
        .ok ((Store.database laundryDatabase).written laundryDiff) ∧
      CarriedThrough laundryDiff
        (run ⟨.ok laundryHistories, .epoch, ⟨600000000000⟩⟩
          (.database laundryDatabase)).commands := by
  have hsettings : Settings.readWith Settings.universalOnly (minutesAhead "10") =
      .ok (leastSettings ⟨600000000000⟩) := rfl
  have hrows : Table.Keyed Row.id laundryDatabase.rows :=
    Table.Keyed.empty.insert (⟨7, "Washer", 0, 300000⟩ : Row)
  have hk : (Store.database laundryDatabase).Keyed := hrows
  have hall : (Store.database laundryDatabase).all = .ok [⟨7, "Washer", .epoch, 300000⟩] := rfl
  have hdiff : laundryDiff = Diff.reconcile laundryHistories [⟨7, "Washer", .epoch, 300000⟩] := rfl
  have happly : (Store.database laundryDatabase).apply laundryDiff =
      .ok ((Store.database laundryDatabase).written laundryDiff) := rfl
  have hfits : ∀ a ∈ laundryDiff.toInsert, a.LeadFits (leastSettings ⟨600000000000⟩).lead := by
    decide
  exact ⟨hsettings, hk, hall, hdiff, happly,
    (carriedThrough_iff hsettings hk hall hdiff happly .epoch).2.1.mpr hfits⟩

/-- With a lead of two million years, the laundry is stored and none of its alarms is told to the
scheduler. -/
theorem exists_not_carriedThrough :
    ∃ vars settings deviceTasks store stored store',
      (∀ zones, Settings.readWith zones vars = .ok settings) ∧
        store.Keyed ∧ store.all = .ok stored ∧
        store.apply (Diff.reconcile deviceTasks stored) = .ok store' ∧
        store' = (run ⟨.ok deviceTasks, .epoch, settings.lead⟩ store).store ∧
        ¬ CarriedThrough (Diff.reconcile deviceTasks stored)
          (run ⟨.ok deviceTasks, .epoch, settings.lead⟩ store).commands := by
  have hrows : Table.Keyed Row.id laundryDatabase.rows :=
    Table.Keyed.empty.insert (⟨7, "Washer", 0, 300000⟩ : Row)
  refine ⟨minutesAhead "1000000000000", leastSettings ⟨60000000000000000000000⟩, laundryHistories,
    .database laundryDatabase, [⟨7, "Washer", .epoch, 300000⟩], _, fun _ => rfl, hrows, rfl, rfl,
    rfl, ?_⟩
  rintro ⟨-, hcancel⟩
  have hcommands : (run ⟨.ok laundryHistories, .epoch, ⟨60000000000000000000000⟩⟩
      (.database laundryDatabase)).commands = [] := rfl
  have hmem := hcancel ⟨7, "Washer", .epoch, 300000⟩ (by decide)
  rw [leastSettings, hcommands] at hmem
  exact absurd hmem (by simp)

end Pass

end Household
