import Household.Settings.Basic

/-!
# Which Variables Count

The settings depend on ten variables, and of these only on the ones that are not blank: variables
that are unset, blank or of other names make no difference, neither to the settings nor to what is
said when there are none. The texts among the settings are what the variables hold, as it is.

## Main results

* `value?_eq_some_iff`, `value?_eq_none_iff`: when a variable has a value.
* `ends_readWith`: the ways in which the reading of settings ends.
* `readWith_eq_of_agree`: variables that agree where they count lead to the same.
-/

namespace Household.Settings

/-- The variable holds this value, and the value has more to it than white space. -/
def Given (vars : Variables) (name value : String) : Prop :=
  vars name = some value ∧ ∃ c ∈ value.toList, Text.isBlank c = false

/-- There is no such variable, or it holds nothing but white space. -/
def IsUnset (vars : Variables) (name : String) : Prop :=
  ∀ value, vars name = some value → ∀ c ∈ value.toList, Text.isBlank c = true

variable {vars vars' : Variables} {name value : String}

/-- A variable has the value that it is given. -/
theorem value?_eq_some_iff : value? vars name = some value ↔ Given vars name value := by
  simp [value?, Given, Text.allBlank]

/-- Only a variable that is unset has no value. -/
theorem value?_eq_none_iff : value? vars name = none ↔ IsUnset vars name := by
  simp [value?, IsUnset, Text.allBlank]

/-- A variable has one value at most. -/
theorem Given.unique {value' : String} (h : Given vars name value) (h' : Given vars name value') :
    value = value' :=
  Option.some.inj (h.1.symm.trans h'.1)

/-- A variable with a value is not unset. -/
theorem Given.not_isUnset (h : Given vars name value) : ¬ IsUnset vars name := by
  intro hunset
  obtain ⟨c, hc, hblank⟩ := h.2
  rw [hunset value h.1 c hc] at hblank
  cases hblank

/-! ### What is taken over -/

/-- The text is the value of the variable, untrimmed, or the default if it is unset. -/
def IsTextOf (vars : Variables) (name default text : String) : Prop :=
  Given vars name text ∨ IsUnset vars name ∧ text = default

/-- The text of a variable is the value that it has or the default. -/
theorem isTextOf_getD (vars : Variables) (name default : String) :
    IsTextOf vars name default ((value? vars name).getD default) := by
  cases h : value? vars name with
  | none => exact .inr ⟨value?_eq_none_iff.mp h, rfl⟩
  | some value => exact .inl (value?_eq_some_iff.mp h)

/-- The settings hold the texts of the variables as they are. -/
structure TakesOver (vars : Variables) (settings : Settings) : Prop where
  apiUrl : Given vars "HOMETASK_API_URL" settings.apiUrl
  databaseUrl : IsTextOf vars "DATABASE_URL" "hometask.db" settings.databaseUrl
  sessionFile : IsTextOf vars "HOMETASK_SESSION_FILE" "session.json" settings.sessionFile
  syncSchedule : IsTextOf vars "HOMETASK_SYNC_CRON" "0 */15 * * * *" settings.syncSchedule
  bind : IsTextOf vars "HOMETASK_BIND" "127.0.0.1:8080" settings.bind
  notifyCommand_iff : ∀ command, settings.notifyCommand = some command ↔
    Given vars "HOMETASK_NOTIFY_COMMAND" command
  /-- There are credentials exactly if there are both a user name and a password. -/
  credentials_iff : ∀ credentials, settings.credentials = some credentials ↔
    Given vars "HOMETASK_USERNAME" credentials.username ∧
      Given vars "HOMETASK_PASSWORD" credentials.password

/-- Credentials are read from a user name and a password that are both given. -/
theorem readCredentials_eq_some_iff {credentials : Credentials} :
    readCredentials vars = some credentials ↔
      Given vars "HOMETASK_USERNAME" credentials.username ∧
        Given vars "HOMETASK_PASSWORD" credentials.password := by
  obtain ⟨username, password⟩ := credentials
  simp only [readCredentials, Option.bind_eq_bind, Option.bind_eq_some_iff, Option.pure_def,
    Option.some.injEq, Credentials.mk.injEq, value?_eq_some_iff]
  constructor
  · rintro ⟨_, husername, _, hpassword, rfl, rfl⟩
    exact ⟨husername, hpassword⟩
  · rintro ⟨husername, hpassword⟩
    exact ⟨username, husername, password, hpassword, rfl, rfl⟩

/-! ### The ways in which the reading ends -/

variable {zones : String → Option Zone}

/-- The ways in which the reading of settings ends. -/
inductive Ends (zones : String → Option Zone) (vars : Variables) :
    Except SettingsError Settings → Prop
  /-- The server is not named. -/
  | missing (hurl : IsUnset vars "HOMETASK_API_URL") :
    Ends zones vars (.error (.missing "HOMETASK_API_URL"))
  /-- There is no lead. -/
  | lead {url : String} {e : SettingsError} (hurl : Given vars "HOMETASK_API_URL" url)
      (hlead : readLead vars = .error e) : Ends zones vars (.error e)
  /-- There is a lead, but no zone. -/
  | zone {url : String} {lead : Span} {e : SettingsError}
      (hurl : Given vars "HOMETASK_API_URL" url) (hlead : readLead vars = .ok lead)
      (hzone : readZone zones vars = .error e) : Ends zones vars (.error e)
  /-- Nothing is amiss. -/
  | ok {settings : Settings} (htexts : TakesOver vars settings)
      (hlead : readLead vars = .ok settings.lead)
      (hzone : readZone zones vars = .ok settings.zone) : Ends zones vars (.ok settings)

/-- **The reading of settings ends in one of four ways.** -/
theorem ends_readWith (zones : String → Option Zone) (vars : Variables) :
    Ends zones vars (readWith zones vars) := by
  rw [readWith]
  cases hurl : value? vars "HOMETASK_API_URL" with
  | none => exact .missing (value?_eq_none_iff.mp hurl)
  | some url =>
    have hgiven := value?_eq_some_iff.mp hurl
    cases hlead : readLead vars with
    | error e => exact .lead hgiven hlead
    | ok lead =>
      cases hzone : readZone zones vars with
      | error e => exact .zone hgiven hlead hzone
      | ok zone =>
        refine .ok ?_ hlead hzone
        exact
          { apiUrl := hgiven
            databaseUrl := isTextOf_getD vars _ _
            sessionFile := isTextOf_getD vars _ _
            syncSchedule := isTextOf_getD vars _ _
            bind := isTextOf_getD vars _ _
            notifyCommand_iff := fun _ => value?_eq_some_iff
            credentials_iff := fun _ => readCredentials_eq_some_iff }

/-- Settings that could be read hold the texts of the variables. -/
theorem takesOver_of_readWith {settings : Settings} (h : readWith zones vars = .ok settings) :
    TakesOver vars settings := by
  have hends := ends_readWith zones vars
  rw [h] at hends
  cases hends with
  | ok htexts _ _ => exact htexts

/-- **Blank variables are as good as unset, and variables of other names do not matter**: two sets
of variables that agree on the ten names once the blank ones are left out lead to the same settings
or to the same error, whatever zones are known. The settings hold the texts of the variables as they
are, with credentials exactly if a user name and a password are both given. -/
theorem readWith_eq_of_agree (zones : String → Option Zone)
    (h : ∀ name ∈ names, ∀ value, Given vars name value ↔ Given vars' name value) :
    readWith zones vars = readWith zones vars' ∧
      ∀ settings, readWith zones vars = .ok settings →
        TakesOver vars settings ∧ TakesOver vars' settings := by
  have hvalue : ∀ name ∈ names, value? vars name = value? vars' name := fun name hname =>
    Option.ext fun value => by rw [value?_eq_some_iff, value?_eq_some_iff, h name hname]
  have hread := readWith_congr zones hvalue
  exact ⟨hread, fun settings hsettings =>
    ⟨takesOver_of_readWith hsettings, takesOver_of_readWith (hread ▸ hsettings)⟩⟩

/-! ### A blank password -/

/-- A table of zones that knows universal time and no other. -/
def universalOnly (name : String) : Option Zone :=
  if name = "UTC" then some .universal else none

/-- A server, a user name and nothing else. -/
def sparse : Variables := fun name =>
  if name = "HOMETASK_API_URL" then some " http://localhost:8080 "
  else if name = "HOMETASK_USERNAME" then some "alice"
  else none

/-- The same, with a blank password, a blank lead and a variable that is not read. -/
def cluttered : Variables := fun name =>
  if name = "HOMETASK_PASSWORD" then some "\u3000\u0085\t"
  else if name = "HOMETASK_NOTIFY_BEFORE_MINUTES" then some ""
  else if name = "HOMETASK_PORT" then some "8080"
  else sparse name

/-- The blank password and lead and the other variable make no difference: there are no credentials,
and the server is taken over with its blanks. -/
theorem readWith_eq_of_agree_cluttered :
    (∀ name ∈ names, ∀ value, Given cluttered name value ↔ Given sparse name value) ∧
      cluttered "HOMETASK_PASSWORD" ≠ sparse "HOMETASK_PASSWORD" ∧
      cluttered "HOMETASK_PORT" ≠ sparse "HOMETASK_PORT" ∧
      ∃ settings, readWith universalOnly cluttered = .ok settings ∧
        readWith universalOnly sparse = .ok settings ∧
        settings.apiUrl = " http://localhost:8080 " ∧ settings.credentials = none := by
  have hvalue : ∀ name ∈ names, value? cluttered name = value? sparse name := by decide
  have hagree : ∀ name ∈ names, ∀ value,
      Given cluttered name value ↔ Given sparse name value := fun name hname value => by
    rw [← value?_eq_some_iff, ← value?_eq_some_iff, hvalue name hname]
  have hread := (readWith_eq_of_agree universalOnly hagree).1
  exact ⟨hagree, by decide, by decide, _, hread, rfl, rfl, rfl⟩

end Household.Settings
