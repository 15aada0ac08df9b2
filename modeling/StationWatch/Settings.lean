import StationWatch.Cycle
import StationWatch.Environment

/-!
# Settings

A bridge holds the settings of the connection, which must be usable, and a handler those of what it
watches.  Both are read from an environment, where every name starts with the same word.  A missing
or blank number counts as the usual one.

## Main definitions

* `BridgeSettings`, `BridgeSettings.check` — the connection.
* `Bridge` — the connection itself.
* `SettingsFault` — why settings are refused.
* `BridgeSettings.load`, `WeatherSettings.load` — settings from an environment.
* `boolean`, `measurementNames` — single settings.

## References

`SPEC_FULL.md`, section 10.3.
-/

namespace StationWatch

/-- Why settings are refused. -/
inductive SettingsFault
  | serviceRequired
  | emptyAddress
  | interval (seconds : Int)
  | timeout (seconds : Float)
  | attempts (count : Int)
  | notNumber (name : String) (raw : RawText)
  | notBoolean (raw : RawText)
  | noMeasurements
  deriving Repr, Inhabited

/-- What the names of all settings in an environment start with. -/
def settingStem : String := "OPENSMARTCITY_"

/-- The wording of a fault. -/
def SettingsFault.message : SettingsFault → String
  | .serviceRequired =>
    "SensorThings base URL required. Set " ++ settingStem ++ "BASE_URL in .env file."
  | .emptyAddress => "Bridge base URL is mandatory"
  | .interval seconds => "Refresh interval must be positive, got " ++ toString seconds
  | .timeout seconds => "Timeout must be positive, got " ++ Decimal.text seconds
  | .attempts count => "Retry attempts must be at least 1, got " ++ toString count
  | .notNumber name raw => settingStem ++ name ++ " must be a number, got " ++ Text.mention raw
  | .notBoolean raw => "Not a boolean value: " ++ Text.mention raw
  | .noMeasurements => "At least one measurement must be configured"

/-- The settings of the connection, shared by all handlers. -/
structure BridgeSettings where
  baseUrl : RawText
  /-- Seconds between cycles. -/
  refreshInterval : Int := 60
  /-- The time limit of a request in seconds. -/
  timeout : Float := 10.0
  attempts : Int := 1
  username : Option RawText := none
  password : Option RawText := none
  deriving Repr, Inhabited

namespace BridgeSettings

/-- The settings themselves, if they are usable; the first unusable one is named. -/
def check (s : BridgeSettings) : Except SettingsFault BridgeSettings :=
  if s.baseUrl.isEmpty then .error .emptyAddress
  else if s.refreshInterval ≤ 0 then .error (.interval s.refreshInterval)
  else if s.timeout ≤ 0.0 then .error (.timeout s.timeout)
  else if s.attempts < 1 then .error (.attempts s.attempts)
  else .ok s

/-- The settings in one line, for a reader; the password is left out. -/
def shown (s : BridgeSettings) : String :=
  "BridgeConfig(base_url=" ++ Text.mention s.baseUrl ++
    ", refresh_interval=" ++ toString s.refreshInterval ++
    ", timeout=" ++ Decimal.text s.timeout ++
    ", retry_attempts=" ++ toString s.attempts ++
    ", username=" ++ s.username.elim "None" Text.mention ++ ")"

/-- What these settings say of the service. -/
def client (s : BridgeSettings) : ServiceSettings :=
  { baseUrl := s.baseUrl, username := s.username, password := s.password
    timeout := s.timeout, attempts := s.attempts }

end BridgeSettings

/-- A connection that is shared by handlers. -/
structure Bridge where
  service : Service
  /-- Seconds between cycles. -/
  refreshInterval : Int
  deriving Inhabited

/-- The connection with these settings, if their credentials have bytes. -/
def BridgeSettings.bridge (s : BridgeSettings) (platform : Platform := {}) :
    Except EncodingFault Bridge :=
  (Service.ofSettings s.client platform).map fun service => ⟨service, s.refreshInterval⟩

theorem BridgeSettings.bridge_eq_ok_iff {s : BridgeSettings} {platform : Platform}
    {bridge : Bridge} : s.bridge platform = .ok bridge ↔ ∃ credentials,
      authHeaders s.username s.password = .ok credentials ∧
        bridge = ⟨.connect s.client credentials platform, s.refreshInterval⟩ := by
  unfold BridgeSettings.bridge Service.ofSettings
  change ((authHeaders s.username s.password).map _).map _ = _ ↔ _
  cases authHeaders s.username s.password <;> simp [Except.map, eq_comm]

/-! ### Single settings -/

/-- The text of a setting. -/
def setting? (env : Environment) (name : String) : Option RawText := env.get? (settingStem ++ name)

/-- The text of a setting, unless it is empty. -/
def nonEmpty? (env : Environment) (name : String) : Option RawText :=
  (setting? env name).filter fun text => !text.isEmpty

/-- A number in a setting; a missing or blank one counts as the usual number. -/
def numberSetting {α : Type} (env : Environment) (name : String) (usual : α)
    (read : RawText → Option α) : Except SettingsFault α :=
  match setting? env name with
  | none => .ok usual
  | some raw =>
    if raw.strip.isEmpty then .ok usual
    else (read raw).elim (.error (.notNumber name raw)) .ok

/-- The texts that mean yes. -/
def trueTexts : List String := ["1", "true", "yes", "on"]

/-- The texts that mean no. -/
def falseTexts : List String := ["0", "false", "no", "off", ""]

/-- A yes or no, in any case and with blanks around it. -/
def boolean (raw : RawText) : Except SettingsFault Bool :=
  let word := raw.strip.lower
  if trueTexts.any fun text => word == text then .ok true
  else if falseTexts.any fun text => word == text then .ok false
  else .error (.notBoolean raw)

/-- The names in a list with commas, in capitals and without blanks around them; blank ones do not
count, and there must be one. -/
def measurementNames (raw : RawText) : Except SettingsFault (List RawText) :=
  let parts := ((raw.fields ',').map RawText.strip).filter fun part => !part.isEmpty
  if parts.isEmpty then .error .noMeasurements else .ok (parts.map RawText.upper)

/-! ### Settings from an environment -/

/-- The settings of the connection in an environment. -/
def BridgeSettings.load (env : Environment) : Except SettingsFault BridgeSettings := do
  match nonEmpty? env "BASE_URL" with
  | none => .error .serviceRequired
  | some baseUrl =>
    let refreshInterval ← numberSetting env "REFRESH_INTERVAL" 60 RawText.integer?
    let timeout ← numberSetting env "TIMEOUT" 10.0 RawText.real?
    let attempts ← numberSetting env "RETRY_ATTEMPTS" 1 RawText.integer?
    BridgeSettings.check
      { baseUrl, refreshInterval, timeout, attempts
        username := nonEmpty? env "USERNAME"
        password := nonEmpty? env "PASSWORD" }

/-- What a handler is to watch, from an environment. -/
def WeatherSettings.load (env : Environment) : Except SettingsFault WeatherSettings := do
  let usual : WeatherSettings := {}
  let useNearest ← boolean ((setting? env "USE_NEAREST_STATION").getD "")
  let measurements ←
    match nonEmpty? env "MEASUREMENTS" with
    | some raw => measurementNames raw
    | none => .ok usual.measurements
  .ok
    { location := (setting? env "LOCATION").getD ""
      stationName := (nonEmpty? env "STATION_NAME").getD usual.stationName
      useNearest, measurements }

end StationWatch
