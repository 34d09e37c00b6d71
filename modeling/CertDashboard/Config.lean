import CertDashboard.Cookie
import CertDashboard.Expiry.Remaining
import CertDashboard.Text.Blank
import CertDashboard.Text.Quoted
import CertDashboard.Url
import CertDashboard.Url.Form

set_option autoImplicit false
set_option relaxedAutoImplicit false

/-!
# Configuration

The defaults may be overridden from the environment, or from the query of the page that shows the
dashboard. The query tunes the dashboard only: the backend of a page is the one that served it.

## Main definitions

* `CertDashboard.Config` — the settings, and `Config.standard`, the defaults.
* `CertDashboard.Config.Fault` — an unusable value, and `Fault.message`.
* `CertDashboard.Config.fromEnvironment` — the settings from environment variables.
* `CertDashboard.Config.fromPage` — the settings from the origin and the query of a page.

## Design

Both sources are the same function of a table of names and a lookup. A value that is blank counts as
not given. Values are judged in a fixed order, and the first unusable one is the fault.
-/

namespace CertDashboard

/-- **How much is logged**, from least to most. -/
inductive LogLevel where
  /-- Errors only. -/
  | error
  /-- And warnings. -/
  | warn
  /-- And information. -/
  | info
  /-- And what helps to find faults. -/
  | debug
  /-- And everything else. -/
  | trace
  deriving DecidableEq, Repr

namespace LogLevel

/-- The name of a level. -/
def name : LogLevel → String
  | .error => "ERROR"
  | .warn => "WARN"
  | .info => "INFO"
  | .debug => "DEBUG"
  | .trace => "TRACE"

/-- The levels, from least to most. -/
def all : List LogLevel := [.error, .warn, .info, .debug, .trace]

/-- **A level by its name**, in any case of its letters, or by its number, from one to five. -/
def read? (s : String) : Option LogLevel :=
  match Decimal.unsigned? (UInt64.size - 1) s with
  | some 0 => none
  | some (n + 1) => all[n]?
  | none => all.find? fun level => level.name.toList == s.toList.map Char.toUpper

end LogLevel

/-- **The settings.** -/
structure Config where
  /-- Root address of the backend. -/
  apiBaseUrl : String
  /-- Seconds between two refreshes. -/
  refreshSeconds : UInt64
  /-- Days that the collapsed view shows. -/
  horizonDays : UInt32
  /-- Cookie that holds the session token. -/
  sessionCookie : String
  /-- How much is logged. -/
  logLevel : LogLevel
  deriving DecidableEq, Repr

/-- **How the dashboard is tuned.** -/
structure Tuning where
  /-- Seconds between two refreshes. -/
  refreshSeconds : UInt64
  /-- Horizon of the collapsed view. -/
  horizon : Horizon
  deriving DecidableEq, Repr

namespace Config

/-- **The defaults.** -/
def standard : Config where
  apiBaseUrl := "http://127.0.0.1:8111"
  refreshSeconds := 60
  horizonDays := 90
  sessionCookie := Cookie.sessionName
  logLevel := .info

/-- The tuning of the dashboard by its settings. -/
def tuning (c : Config) : Tuning :=
  ⟨c.refreshSeconds, .ofDays c.horizonDays⟩

/-- **An unusable value.** -/
inductive Fault where
  /-- The address of the backend is no web address. -/
  | apiUrl (value : String)
  /-- A number is malformed or zero, or a level is unknown. -/
  | value (name value : String)
  deriving DecidableEq, Repr

/-- **The wording of a fault.** -/
def Fault.message : Fault → String
  | .apiUrl given => "DOOMSDAY_API_URL must be an http(s) url, got " ++ Text.quoted given
  | .value name given => name ++ " has an unusable value " ++ Text.quoted given

/-- **The names of the settings** in one source. -/
structure Names where
  /-- Address of the backend, if the source may give it. -/
  apiUrl : Option String
  /-- Seconds between two refreshes. -/
  refreshSeconds : String
  /-- Days that the collapsed view shows. -/
  horizonDays : String
  /-- How much is logged. -/
  logLevel : String

/-- Names of environment variables. -/
def environment : Names :=
  ⟨some "DOOMSDAY_API_URL", "DOOMSDAY_REFRESH_SECONDS", "DOOMSDAY_HORIZON_DAYS", "DOOMSDAY_LOG"⟩

/-- Names of query fields. -/
def query : Names :=
  ⟨none, "refresh_seconds", "horizon_days", "log"⟩

/-- A value that is given: trimmed, and not blank. -/
def given (lookup : String → Option String) (name : String) : Option String :=
  ((lookup name).map Text.trim).filter (· ≠ "")

/-- What a value says, or a default if none is given. -/
def orDefault {α : Type} (given? : Option String) (default : α) (read : String → Except Fault α) :
    Except Fault α :=
  match given? with
  | none => .ok default
  | some value => read value

/-- The address of a backend. -/
def readApiUrl (value : String) : Except Fault String :=
  if Url.isWeb value then .ok value else .error (.apiUrl value)

/-- A positive number at most a bound. -/
def readPositive (bound : Nat) (name value : String) : Except Fault Nat :=
  match Decimal.unsigned? bound value with
  | some 0 => .error (.value name value)
  | some n => .ok n
  | none => .error (.value name value)

/-- A level. -/
def readLevel (name value : String) : Except Fault LogLevel :=
  match LogLevel.read? value with
  | some level => .ok level
  | none => .error (.value name value)

/-- The settings with the overrides of a source, but for the address of the backend. -/
def tune (names : Names) (lookup : String → Option String) (c : Config) : Except Fault Config := do
  let seconds ← orDefault (given lookup names.refreshSeconds) c.refreshSeconds fun value =>
    (readPositive (UInt64.size - 1) names.refreshSeconds value).map UInt64.ofNat
  let days ← orDefault (given lookup names.horizonDays) c.horizonDays fun value =>
    (readPositive (UInt32.size - 1) names.horizonDays value).map UInt32.ofNat
  let level ← orDefault (given lookup names.logLevel) c.logLevel (readLevel names.logLevel)
  .ok { c with refreshSeconds := seconds, horizonDays := days, logLevel := level }

/-- **The settings with the overrides of a source.** -/
def override (names : Names) (lookup : String → Option String) (c : Config) :
    Except Fault Config := do
  let url ← orDefault (names.apiUrl.bind (given lookup)) c.apiBaseUrl readApiUrl
  tune names lookup { c with apiBaseUrl := url }

/-- **The settings from environment variables.** -/
def fromEnvironment (lookup : String → Option String) : Except Fault Config :=
  override environment lookup standard

/-- The defaults for a page of the given origin. -/
def forOrigin (origin : String) : Config :=
  { standard with apiBaseUrl := origin }

/-- **The settings from the origin and the query of a page.** -/
def fromPage (origin pageQuery : String) : Except Fault Config :=
  override query (Url.Form.last? pageQuery) (forOrigin origin)

end Config

end CertDashboard
