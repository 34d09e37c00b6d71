import CertDashboard.Startup

set_option autoImplicit false
set_option relaxedAutoImplicit false

/-!
# The program

Reads the environment, writes the report, and ends as the report says. Nothing is logged.
-/

/-- The program. -/
def main : IO UInt32 := do
  let names := [CertDashboard.Config.environment.apiUrl.getD "",
    CertDashboard.Config.environment.refreshSeconds,
    CertDashboard.Config.environment.horizonDays, CertDashboard.Config.environment.logLevel]
  let values ← names.mapM fun name => do
    let value ← IO.getEnv name
    pure (name, value)
  let report := CertDashboard.Startup.report fun name => (values.lookup name).join
  let out ← IO.getStdout
  let err ← IO.getStderr
  out.putStr report.output
  err.putStr report.errors
  pure report.exit.toUInt32
