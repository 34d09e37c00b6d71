import CertDashboard.Session.Run

set_option autoImplicit false
set_option relaxedAutoImplicit false

/-!
# Starting the program

Pages are built from services, and these from the settings. Without a browser the program shows its
version and the settings it would run with.

## Main definitions

* `CertDashboard.Startup.Fault` — why the program does not start.
* `CertDashboard.Startup.services` — what pages are built from, by the settings.
* `CertDashboard.Startup.Report` — what is written and logged, and how the program ends.
* `CertDashboard.Startup.report` — the report of an environment.

## Design

A report tells what is logged from what is written. A log line has the time in it and is shown or
not by a level that may be set outside of the settings, so that the text of it is no part of a
report.
-/

namespace CertDashboard

namespace Startup

/-- **Why the program does not start.** -/
inductive Fault where
  /-- A setting is unusable. -/
  | config (fault : Config.Fault)
  /-- The address of the backend is unusable. -/
  | client (fault : Api.ConnectFault)
  /-- The backend could not be asked how users prove who they are. -/
  | authQuery (error : Api.Error)

namespace Fault

/-- What failed. -/
def heading : Fault → String
  | .config _ => "config error: "
  | .client _ => "client error: "
  | .authQuery _ => "auth mode query failed: "

/-- How it failed. -/
def detail : Fault → String
  | .config fault => fault.message
  | .client fault => fault.message
  | .authQuery error => error.describe

/-- **The wording of a fault.** -/
def message (f : Fault) : String :=
  f.heading ++ f.detail

end Fault

/-- **What pages are built from**, by the settings. -/
def services (config : Config) : Except Fault Services :=
  match Api.Client.connect config.apiBaseUrl with
  | .ok client => .ok ⟨client, config.tuning, config.sessionCookie⟩
  | .error fault => .error (.client fault)

/-- **What is written and logged, and how the program ends.** -/
structure Report where
  /-- Exit code. -/
  exit : UInt8
  /-- Standard output. -/
  output : String
  /-- Standard error. -/
  errors : String
  /-- What is logged, in order. -/
  events : List Log.Event
  deriving DecidableEq

/-- One setting and the variable that overrides it. -/
def settingLine (label value variableName : String) : String :=
  label ++ "=" ++ value ++ " (" ++ variableName ++ ")\n"

/-- The settings, a line for each. -/
def settingLines (c : Config) : String :=
  settingLine "api_base_url" c.apiBaseUrl "DOOMSDAY_API_URL" ++
    settingLine "refresh_seconds" (Decimal.natural c.refreshSeconds.toNat)
      Config.environment.refreshSeconds ++
    settingLine "horizon_days" (Decimal.natural c.horizonDays.toNat)
      Config.environment.horizonDays ++
    settingLine "log_level" c.logLevel.name Config.environment.logLevel

/-- **The report of an environment.** -/
def report (lookup : String → Option String) : Report :=
  let heading := "doomsday-app " ++ Session.version ++ "\n"
  match Config.fromEnvironment lookup with
  | .ok config => ⟨0, heading ++ settingLines config, "", []⟩
  | .error fault =>
    ⟨1, heading, "invalid configuration: " ++ fault.message ++ "\n", [.configRejected fault]⟩

end Startup

end CertDashboard
