import Household.Proofs.Settings.Variables
import Household.Proofs.Text.Words

/-!
# What Settings Promise

Settings that could be read hold values that the rest of the program can rely on; where there are
none it is said which variable is to blame. This is so but for one gap: a lead of minutes that are a
64-bit word but no span is not refused like other leads. It takes the arithmetic out of its range.

## Main results

* `leadEnds_readLead`, `zoneEnds_readZone`: what is read of the lead and of the zone.
* `promised_readWith_iff`: the settings are read as promised exactly outside the gap.
* `exists_lead_eq_of_readWith`: the lead is a number of whole minutes that is not negative.
-/

namespace Household.Settings

variable {vars : Variables} {zones : String → Option Zone}

/-! ### The lead -/

/-- The value is a number of minutes that is a span and not negative. -/
def IsLead (value : String) (minutes : Nat) : Prop :=
  Text.Denotes value.toList minutes ∧ minutes * 60000 ≤ Span.maxMillis

/-- The lead is given as a number of minutes, or unset, when it is ten. -/
def LeadIs (vars : Variables) (minutes : Nat) : Prop :=
  IsUnset vars "HOMETASK_NOTIFY_BEFORE_MINUTES" ∧ minutes = 10 ∨
    ∃ value, Given vars "HOMETASK_NOTIFY_BEFORE_MINUTES" value ∧ IsLead value minutes

/-- The lead is given as a number of minutes that is a word and not negative, but no span. -/
def LeadOverflows (vars : Variables) : Prop :=
  ∃ value, Given vars "HOMETASK_NOTIFY_BEFORE_MINUTES" value ∧
    ∃ minutes : Nat, Text.Denotes value.toList minutes ∧
      Span.maxMillis < minutes * 60000 ∧ (minutes : Int) ≤ Int64.maxValue.toInt

/-- Minutes that are not negative are a span up to a greatest number of them. -/
theorem ofMinutes_of_nonneg {minutes : Int64} {n : Nat} (h : minutes.toInt = n) :
    Span.ofMinutes minutes =
      if n * 60000 ≤ Span.maxMillis then .ok ⟨n * 60000000000⟩ else .error .minutes := by
  rw [Span.ofMinutes, h]
  by_cases hspan : n * 60000 ≤ Span.maxMillis
  · rw [if_pos hspan, if_neg (by omega)]
  · rw [if_neg hspan, if_pos (by omega)]

/-- What becomes of the lead. -/
inductive LeadEnds (vars : Variables) : Except SettingsError Span → Prop
  /-- There is a lead. -/
  | ok {minutes : Nat} (h : LeadIs vars minutes) : LeadEnds vars (.ok ⟨minutes * 60000000000⟩)
  /-- It is not a number of minutes, or a negative one, or one that is no word. -/
  | invalid {value : String} (h : Given vars "HOMETASK_NOTIFY_BEFORE_MINUTES" value)
      (hno : ∀ minutes : Nat, Text.Denotes value.toList minutes →
        Int64.maxValue.toInt < minutes) :
    LeadEnds vars (.error (.invalid "HOMETASK_NOTIFY_BEFORE_MINUTES" value))
  /-- It is no span. -/
  | range (h : LeadOverflows vars) : LeadEnds vars (.error (.range .minutes))

/-- **What is read of the lead.** -/
theorem leadEnds_readLead (vars : Variables) : LeadEnds vars (readLead vars) := by
  rw [readLead]
  cases hvalue : value? vars "HOMETASK_NOTIFY_BEFORE_MINUTES" with
  | none =>
    have hten : LeadIs vars 10 := .inl ⟨value?_eq_none_iff.mp hvalue, rfl⟩
    rw [show defaultLead = ⟨(10 : Nat) * 60000000000⟩ by decide]
    exact .ok hten
  | some value =>
    have hgiven := value?_eq_some_iff.mp hvalue
    dsimp only
    cases hword : Text.readWord? value.toList with
    | none => exact .invalid hgiven fun minutes => Text.lt_of_readWord?_eq_none hword
    | some minutes =>
      have hdenotes := Text.readWord?_eq_some_iff.mp hword
      dsimp only
      by_cases hnonneg : 0 ≤ minutes.toInt
      · obtain ⟨n, hn⟩ := Int.eq_ofNat_of_zero_le hnonneg
        rw [if_pos hnonneg, ofMinutes_of_nonneg hn]
        rw [hn] at hdenotes
        by_cases hspan : n * 60000 ≤ Span.maxMillis
        · rw [if_pos hspan]
          exact .ok (.inr ⟨value, hgiven, hdenotes, hspan⟩)
        · rw [if_neg hspan]
          refine .range ⟨value, hgiven, n, hdenotes, Int.not_le.mp hspan, ?_⟩
          rw [← hn, Int64.toInt_maxValue]
          exact Int.le_of_lt_add_one minutes.toInt_lt
      · -- The number that the text denotes is negative, and a text denotes no other one.
        rw [if_neg hnonneg]
        refine .invalid hgiven fun n hn => absurd ?_ hnonneg
        rw [hdenotes.unique hn]
        exact Int.natCast_nonneg n

/-- A lead that could be read is a number of whole minutes that is not negative. -/
theorem exists_leadIs_of_readLead {lead : Span} (h : readLead vars = .ok lead) :
    ∃ minutes : Nat, LeadIs vars minutes ∧ lead.nanos = minutes * 60000000000 := by
  have hends := leadEnds_readLead vars
  rw [h] at hends
  cases hends with
  | ok hlead => exact ⟨_, hlead, rfl⟩

/-- A value that is read as no number of minutes is no lead. -/
theorem not_exists_isLead {value : String}
    (h : ∀ minutes : Nat, Text.Denotes value.toList minutes → Int64.maxValue.toInt < minutes) :
    ¬ ∃ minutes, IsLead value minutes := by
  rintro ⟨minutes, hdenotes, hspan⟩
  have hlt := h minutes hdenotes
  rw [Int64.toInt_maxValue] at hlt
  rw [Span.maxMillis] at hspan
  omega

/-- A lead is given as a lead, if it is given. -/
theorem LeadIs.isLead {minutes : Nat} {value : String} (h : LeadIs vars minutes)
    (hvalue : Given vars "HOMETASK_NOTIFY_BEFORE_MINUTES" value) : IsLead value minutes := by
  rcases h with ⟨hunset, -⟩ | ⟨value', hgiven, hlead⟩
  · exact absurd hunset hvalue.not_isUnset
  · rwa [hvalue.unique hgiven]

/-- Minutes that are no span are no lead. -/
theorem LeadOverflows.not_leadIs (h : LeadOverflows vars) (minutes : Nat) :
    ¬ LeadIs vars minutes := by
  intro hlead
  obtain ⟨value, hgiven, n, hdenotes, hover, -⟩ := h
  obtain ⟨hdenotes', hspan⟩ := hlead.isLead hgiven
  rw [hdenotes.unique hdenotes'] at hover
  exact absurd hspan (Int.not_le.mpr hover)

/-- Minutes that are no span take the arithmetic out of its range. -/
theorem LeadOverflows.readLead_eq (h : LeadOverflows vars) :
    readLead vars = .error (.range .minutes) := by
  have hends := leadEnds_readLead vars
  generalize readLead vars = outcome at hends
  cases hends with
  | ok hlead => exact absurd hlead (h.not_leadIs _)
  | invalid hvalue hno =>
    -- The number that is given is a word, and so is not what is refused.
    obtain ⟨value, hgiven, minutes, hdenotes, -, hword⟩ := h
    rw [hgiven.unique hvalue] at hdenotes
    exact absurd hword (Int.not_le.mpr (hno minutes hdenotes))
  | range _ => rfl

/-! ### The zone -/

/-- What becomes of the zone. -/
inductive ZoneEnds (zones : String → Option Zone) (vars : Variables) :
    Except SettingsError Zone → Prop
  /-- It is universal time unless another one is asked for. -/
  | unset (h : IsUnset vars "HOMETASK_TIMEZONE") : ZoneEnds zones vars (.ok .universal)
  /-- It is known. -/
  | ok {value : String} {zone : Zone} (h : Given vars "HOMETASK_TIMEZONE" value)
      (hzone : zones value = some zone) : ZoneEnds zones vars (.ok zone)
  /-- It is not known. -/
  | invalid {value : String} (h : Given vars "HOMETASK_TIMEZONE" value)
      (hzone : zones value = none) :
    ZoneEnds zones vars (.error (.invalid "HOMETASK_TIMEZONE" value))

/-- **What is read of the zone.** -/
theorem zoneEnds_readZone (zones : String → Option Zone) (vars : Variables) :
    ZoneEnds zones vars (readZone zones vars) := by
  rw [readZone]
  cases hvalue : value? vars "HOMETASK_TIMEZONE" with
  | none => exact .unset (value?_eq_none_iff.mp hvalue)
  | some value =>
    have hgiven := value?_eq_some_iff.mp hvalue
    dsimp only
    cases hzone : zones value with
    | none => exact .invalid hgiven hzone
    | some zone => exact .ok hgiven hzone

/-- A zone that could be read is universal time, or one that is known by the name given. -/
theorem zone_eq_of_readZone {zone : Zone} (h : readZone zones vars = .ok zone) :
    IsUnset vars "HOMETASK_TIMEZONE" ∧ zone = .universal ∨
      ∃ value, Given vars "HOMETASK_TIMEZONE" value ∧ zones value = some zone := by
  have hends := zoneEnds_readZone zones vars
  rw [h] at hends
  cases hends with
  | unset hunset => exact .inl ⟨hunset, rfl⟩
  | ok hgiven hzone => exact .inr ⟨_, hgiven, hzone⟩

/-! ### The promise -/

/-- What the reading of settings promises: settings, or an error that names the first variable that
is missing or cannot be used. -/
structure Promised (zones : String → Option Zone) (vars : Variables)
    (outcome : Except SettingsError Settings) : Prop where
  /-- Nothing else comes of it, and no arithmetic goes out of range. -/
  ok_or_error : (∃ settings, outcome = .ok settings) ∨
    outcome = .error (.missing "HOMETASK_API_URL") ∨
    ∃ value, outcome = .error (.invalid "HOMETASK_NOTIFY_BEFORE_MINUTES" value) ∨
      outcome = .error (.invalid "HOMETASK_TIMEZONE" value)
  missing_iff : outcome = .error (.missing "HOMETASK_API_URL") ↔ IsUnset vars "HOMETASK_API_URL"
  invalid_lead_iff : ∀ value,
    outcome = .error (.invalid "HOMETASK_NOTIFY_BEFORE_MINUTES" value) ↔
      ¬ IsUnset vars "HOMETASK_API_URL" ∧
        Given vars "HOMETASK_NOTIFY_BEFORE_MINUTES" value ∧ ¬ ∃ minutes, IsLead value minutes
  invalid_zone_iff : ∀ value, outcome = .error (.invalid "HOMETASK_TIMEZONE" value) ↔
    ¬ IsUnset vars "HOMETASK_API_URL" ∧ (∃ minutes, LeadIs vars minutes) ∧
      Given vars "HOMETASK_TIMEZONE" value ∧ zones value = none
  /-- Settings have the lead that is asked for, or ten minutes. -/
  exists_leadIs : ∀ settings, outcome = .ok settings →
    ∃ minutes : Nat, LeadIs vars minutes ∧ settings.lead.nanos = minutes * 60000000000

/-- Without a server no settings are promised. -/
theorem Promised.missing (h : IsUnset vars "HOMETASK_API_URL") :
    Promised zones vars (.error (.missing "HOMETASK_API_URL")) where
  ok_or_error := .inr (.inl rfl)
  missing_iff := iff_of_true rfl h
  invalid_lead_iff _ := iff_of_false (by simp) fun h' => h'.1 h
  invalid_zone_iff _ := iff_of_false (by simp) fun h' => h'.1 h
  exists_leadIs _ h' := by cases h'

/-- A lead that is none is to blame first. -/
theorem Promised.invalidLead {url value : String} (hurl : Given vars "HOMETASK_API_URL" url)
    (h : Given vars "HOMETASK_NOTIFY_BEFORE_MINUTES" value)
    (hno : ¬ ∃ minutes, IsLead value minutes) :
    Promised zones vars (.error (.invalid "HOMETASK_NOTIFY_BEFORE_MINUTES" value)) where
  ok_or_error := .inr (.inr ⟨value, .inl rfl⟩)
  missing_iff := iff_of_false (by simp) hurl.not_isUnset
  invalid_lead_iff value' := by
    simp only [Except.error.injEq, SettingsError.invalid.injEq, true_and]
    constructor
    · rintro rfl
      exact ⟨hurl.not_isUnset, h, hno⟩
    · rintro ⟨-, h', -⟩
      exact h.unique h'
  invalid_zone_iff _ := by
    refine iff_of_false (by simp) ?_
    rintro ⟨-, ⟨minutes, hlead⟩, -⟩
    exact hno ⟨minutes, hlead.isLead h⟩
  exists_leadIs _ h' := by cases h'

/-- Otherwise a zone that is not known is to blame. -/
theorem Promised.invalidZone {url value : String} {minutes : Nat}
    (hurl : Given vars "HOMETASK_API_URL" url) (hlead : LeadIs vars minutes)
    (h : Given vars "HOMETASK_TIMEZONE" value) (hzone : zones value = none) :
    Promised zones vars (.error (.invalid "HOMETASK_TIMEZONE" value)) where
  ok_or_error := .inr (.inr ⟨value, .inr rfl⟩)
  missing_iff := iff_of_false (by simp) hurl.not_isUnset
  invalid_lead_iff _ := by
    refine iff_of_false (by simp) ?_
    rintro ⟨-, hvalue, hno⟩
    exact hno ⟨minutes, hlead.isLead hvalue⟩
  invalid_zone_iff value' := by
    simp only [Except.error.injEq, SettingsError.invalid.injEq, true_and]
    constructor
    · rintro rfl
      exact ⟨hurl.not_isUnset, ⟨minutes, hlead⟩, h, hzone⟩
    · rintro ⟨-, -, h', -⟩
      exact h.unique h'
  exists_leadIs _ h' := by cases h'

/-- Otherwise there are settings. -/
theorem Promised.ok {settings : Settings} {minutes : Nat} (htexts : TakesOver vars settings)
    (hlead : LeadIs vars minutes) (hminutes : settings.lead.nanos = minutes * 60000000000)
    (hzone : IsUnset vars "HOMETASK_TIMEZONE" ∧ settings.zone = .universal ∨
      ∃ value, Given vars "HOMETASK_TIMEZONE" value ∧ zones value = some settings.zone) :
    Promised zones vars (.ok settings) where
  ok_or_error := .inl ⟨settings, rfl⟩
  missing_iff := iff_of_false (by simp) htexts.apiUrl.not_isUnset
  invalid_lead_iff _ := by
    refine iff_of_false (by simp) ?_
    rintro ⟨-, hvalue, hno⟩
    exact hno ⟨minutes, hlead.isLead hvalue⟩
  invalid_zone_iff _ := by
    refine iff_of_false (by simp) ?_
    rintro ⟨-, -, hvalue, hnone⟩
    rcases hzone with ⟨hunset, -⟩ | ⟨value, hgiven, hsome⟩
    · exact hvalue.not_isUnset hunset
    · rw [hvalue.unique hgiven, hsome] at hnone
      cases hnone
  exists_leadIs _ h' := ⟨minutes, hlead, by rw [← Except.ok.inj h', hminutes]⟩

/-- Arithmetic out of range is nothing that is promised. -/
theorem Promised.ne_range {outcome : Except SettingsError Settings} {e : RangeError}
    (h : Promised zones vars outcome) : outcome ≠ .error (.range e) := by
  rintro rfl
  rcases h.ok_or_error with ⟨settings, h'⟩ | h' | ⟨value, h' | h'⟩ <;> cases h'

/-- Settings are read as promised, or they name a server and a lead that is no span. -/
theorem promised_or_leadOverflows (zones : String → Option Zone) (vars : Variables) :
    Promised zones vars (readWith zones vars) ∨
      ¬ IsUnset vars "HOMETASK_API_URL" ∧ LeadOverflows vars := by
  have hends := ends_readWith zones vars
  generalize readWith zones vars = outcome at hends
  cases hends with
  | missing hurl => exact .inl (.missing hurl)
  | lead hurl hlead =>
    have hleadEnds := leadEnds_readLead vars
    rw [hlead] at hleadEnds
    cases hleadEnds with
    | invalid h hno => exact .inl (.invalidLead hurl h (not_exists_isLead hno))
    | range h => exact .inr ⟨hurl.not_isUnset, h⟩
  | zone hurl hlead hzone =>
    obtain ⟨minutes, hminutes, -⟩ := exists_leadIs_of_readLead hlead
    have hzoneEnds := zoneEnds_readZone zones vars
    rw [hzone] at hzoneEnds
    cases hzoneEnds with
    | invalid h hnone => exact .inl (.invalidZone hurl hminutes h hnone)
  | ok htexts hlead hzone =>
    obtain ⟨minutes, hminutes, hnanos⟩ := exists_leadIs_of_readLead hlead
    exact .inl (.ok htexts hminutes hnanos (zone_eq_of_readZone hzone))

/-- With a server and a lead that is no span the arithmetic goes out of range. -/
theorem readWith_eq_of_leadOverflows (zones : String → Option Zone)
    (hurl : ¬ IsUnset vars "HOMETASK_API_URL") (hover : LeadOverflows vars) :
    readWith zones vars = .error (.range .minutes) := by
  have hends := ends_readWith zones vars
  generalize readWith zones vars = outcome at hends
  cases hends with
  | missing hunset => exact absurd hunset hurl
  | lead _ hlead =>
    rw [hover.readLead_eq] at hlead
    rw [Except.error.inj hlead]
  | zone _ hlead _ | ok _ hlead _ =>
    rw [hover.readLead_eq] at hlead
    cases hlead

/-- **Settings are read as promised, unless they name a server and a lead of minutes that are a word
but no span**; exactly then the arithmetic goes out of range. -/
theorem promised_readWith_iff (zones : String → Option Zone) (vars : Variables) :
    (Promised zones vars (readWith zones vars) ↔
      ¬ (¬ IsUnset vars "HOMETASK_API_URL" ∧ LeadOverflows vars)) ∧
    (readWith zones vars = .error (.range .minutes) ↔
      ¬ IsUnset vars "HOMETASK_API_URL" ∧ LeadOverflows vars) := by
  rcases promised_or_leadOverflows zones vars with hpromised | hover
  · have hfits : ¬ (¬ IsUnset vars "HOMETASK_API_URL" ∧ LeadOverflows vars) := fun hover =>
      hpromised.ne_range (readWith_eq_of_leadOverflows zones hover.1 hover.2)
    exact ⟨iff_of_true hpromised hfits, iff_of_false hpromised.ne_range hfits⟩
  · have hread := readWith_eq_of_leadOverflows zones hover.1 hover.2
    exact ⟨iff_of_false (fun h => h.ne_range hread) fun hfits => hfits hover,
      iff_of_true hread hover⟩

/-- A server and the least number of minutes that is no span. -/
def beyondSpan : Variables := fun name =>
  if name = "HOMETASK_API_URL" then some "http://localhost:8080"
  else if name = "HOMETASK_NOTIFY_BEFORE_MINUTES" then some "153722867280913"
  else none

/-- Such a lead is not refused, whatever zones are known: reading it takes the arithmetic out of its
range. -/
theorem not_promised_beyondSpan :
    (∀ zones, readWith zones beyondSpan = .error (.range .minutes)) ∧
      ∀ zones, ¬ Promised zones beyondSpan (readWith zones beyondSpan) := by
  have hread : ∀ zones, readWith zones beyondSpan = .error (.range .minutes) := fun _ => rfl
  exact ⟨hread, fun zones h => h.ne_range (hread zones)⟩

/-! ### The lead of settings -/

/-- **The lead of settings that could be read is a number of whole minutes that is not negative**,
whatever zones are known. -/
theorem exists_lead_eq_of_readWith {settings : Settings} (h : readWith zones vars = .ok settings) :
    ∃ minutes : Nat, settings.lead.nanos = minutes * 60000000000 := by
  have hends := ends_readWith zones vars
  rw [h] at hends
  cases hends with
  | ok _ hlead _ =>
    obtain ⟨minutes, -, hnanos⟩ := exists_leadIs_of_readLead hlead
    exact ⟨minutes, hnanos⟩

/-- No alarm is to fire after the start of its run. -/
theorem lead_nonneg_of_readWith {settings : Settings} (h : readWith zones vars = .ok settings) :
    0 ≤ settings.lead.nanos := by
  obtain ⟨minutes, hlead⟩ := exists_lead_eq_of_readWith h
  omega

end Household.Settings
