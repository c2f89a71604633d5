import Household.Instant.Basic
import Household.Remote.Credentials
import Household.Text.Blank
import Household.Text.Quoted
import Household.Zone

/-!
# Settings

The settings of the program are read from variables with fixed names. A variable that holds nothing
but white space counts as unset; other values are taken over as they are, untrimmed.

## Main results

* `readWith_congr`: only the named variables matter, and blank ones not at all.
-/

namespace Household

/-- What a variable holds, by its name. -/
abbrev Variables := String → Option String

/-- The settings of the program. -/
structure Settings where
  apiUrl : String
  databaseUrl : String
  sessionFile : String
  credentials : Option Credentials
  lead : Span
  syncSchedule : String
  zone : Zone
  bind : String
  notifyCommand : Option String

/-- Why there are no settings. -/
inductive SettingsError
  /-- A variable that is needed is unset. -/
  | missing (name : String)
  /-- A variable holds a value that cannot be used. -/
  | invalid (name value : String)
  /-- The lead is no span. -/
  | range (e : RangeError)
deriving DecidableEq, Repr

/-- The text of a settings error; the value is quoted. -/
def SettingsError.message : SettingsError → String
  | .missing name => name ++ " must be set"
  | .invalid name value =>
    name ++ " has invalid value " ++ String.ofList (Text.quoted value.toList)
  | .range e => e.message

namespace Settings

/-- An alarm fires ten minutes ahead of the start unless the settings say otherwise. -/
def defaultLead : Span := ⟨600 * 1000000000⟩

/-- The names of the variables that are read. -/
def names : List String :=
  ["HOMETASK_API_URL", "DATABASE_URL", "HOMETASK_SESSION_FILE", "HOMETASK_USERNAME",
    "HOMETASK_PASSWORD", "HOMETASK_NOTIFY_BEFORE_MINUTES", "HOMETASK_SYNC_CRON",
    "HOMETASK_TIMEZONE", "HOMETASK_BIND", "HOMETASK_NOTIFY_COMMAND"]

/-- The value of a variable that is not blank. -/
def value? (vars : Variables) (name : String) : Option String :=
  (vars name).filter fun v => !Text.allBlank v.toList

/-- Credentials need both a user name and a password. -/
def readCredentials (vars : Variables) : Option Credentials := do
  return {
    username := ← value? vars "HOMETASK_USERNAME"
    password := ← value? vars "HOMETASK_PASSWORD" }

/-- The lead is a number of minutes that is not negative. -/
def readLead (vars : Variables) : Except SettingsError Span :=
  let name := "HOMETASK_NOTIFY_BEFORE_MINUTES"
  match value? vars name with
  | none => .ok defaultLead
  | some value =>
    match Text.readWord? value.toList with
    | some minutes =>
      if 0 ≤ minutes.toInt then (Span.ofMinutes minutes).mapError .range
      else .error (.invalid name value)
    | none => .error (.invalid name value)

/-- The zone is one that a table of zones has under this name. -/
def readZone (zones : String → Option Zone) (vars : Variables) : Except SettingsError Zone :=
  let name := "HOMETASK_TIMEZONE"
  match value? vars name with
  | none => .ok .universal
  | some value =>
    match zones value with
    | some zone => .ok zone
    | none => .error (.invalid name value)

/-- Reads the settings with a table of zones. A missing server comes before a bad lead, and that
before a bad zone. -/
def readWith (zones : String → Option Zone) (vars : Variables) : Except SettingsError Settings :=
  match value? vars "HOMETASK_API_URL" with
  | none => .error (.missing "HOMETASK_API_URL")
  | some apiUrl => do
    let lead ← readLead vars
    let zone ← readZone zones vars
    return {
      apiUrl
      databaseUrl := (value? vars "DATABASE_URL").getD "hometask.db"
      sessionFile := (value? vars "HOMETASK_SESSION_FILE").getD "session.json"
      credentials := readCredentials vars
      lead
      syncSchedule := (value? vars "HOMETASK_SYNC_CRON").getD "0 */15 * * * *"
      zone
      bind := (value? vars "HOMETASK_BIND").getD "127.0.0.1:8080"
      notifyCommand := value? vars "HOMETASK_NOTIFY_COMMAND" }

/-- Only the named variables matter, and blank ones not at all. -/
theorem readWith_congr (zones : String → Option Zone) {vars vars' : Variables}
    (h : ∀ n ∈ names, value? vars n = value? vars' n) :
    readWith zones vars = readWith zones vars' := by
  simp only [names, List.mem_cons, List.not_mem_nil, or_false, forall_eq_or_imp, forall_eq] at h
  obtain ⟨h1, h2, h3, h4, h5, h6, h7, h8, h9, h10⟩ := h
  simp only [readWith, readCredentials, readLead, readZone, h1, h2, h3, h4, h5, h6, h7, h8, h9, h10]

end Settings

end Household
