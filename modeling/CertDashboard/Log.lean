import CertDashboard.Api.Basic
import CertDashboard.Config
import CertDashboard.Screen

set_option autoImplicit false
set_option relaxedAutoImplicit false

/-!
# Structured log events

## Main definitions

* `CertDashboard.Log.Event` — everything that is logged, as what happened.
* `CertDashboard.Log.Event.level`, `CertDashboard.Log.Event.fields` — an event as a log line has it.
-/

namespace CertDashboard

namespace Log

/-- **The value of a field.** -/
inductive Value where
  /-- A text. -/
  | text (s : String)
  /-- A number. -/
  | number (n : Nat)
  /-- A truth value. -/
  | flag (b : Bool)
  deriving DecidableEq, Repr

/-- **An event**: what happened. -/
inductive Event where
  /-- A request is sent. -/
  | request (method : Api.Method) (path : String)
  /-- A request had no response, or one that reports no success. -/
  | requestFailed (method : Api.Method) (path : String) (error : Api.Error)
  /-- The session cookie is removed. -/
  | tokenCleared (cookie : String)
  /-- A page takes the place of another one. -/
  | displayed (leaving : Option PageKind) (entering : PageKind)
  /-- A page would have been displayed, but there is nowhere to. -/
  | displayDropped (entering : PageKind)
  /-- A page of this kind was initialized before it had a context. -/
  | noContext (kind : PageKind)
  /-- The login form was submitted. -/
  | loginAttempt
  /-- A reply to a login came when the form was gone. -/
  | staleLogin
  /-- The backend accepts the credentials. -/
  | loginSuccess
  /-- The backend does not accept the credentials. -/
  | loginRejected
  /-- A login failed for another reason. -/
  | loginFailed (error : Api.Error)
  /-- A reply to a refresh came when the dashboard was gone. -/
  | staleRefresh
  /-- The inventory is there. -/
  | refreshed (certificates : Nat)
  /-- The backend no longer accepts the session. -/
  | sessionExpired
  /-- A refresh failed for another reason. -/
  | refreshFailed (error : Api.Error)
  /-- The horizon was changed. -/
  | horizonToggled (horizon : Horizon)
  /-- The settings are unusable. -/
  | configRejected (fault : Config.Fault)
  /-- The program starts. -/
  | started (version : String)
  /-- The backend could not be asked how users prove who they are. -/
  | authQueryFailed (error : Api.Error)
  /-- The answer came when there was nowhere to display a page. -/
  | pagerDropped
  /-- The first page is chosen. -/
  | firstPage (auth : Api.AuthMethod) (hasToken : Bool) (kind : PageKind)
  /-- The user logs out. -/
  | logout
  deriving DecidableEq

namespace Event

/-- **The level of an event.** -/
def level : Event → LogLevel
  | .request _ _ | .displayDropped _ | .staleLogin | .staleRefresh | .refreshed _
  | .horizonToggled _ | .pagerDropped => .debug
  | .tokenCleared _ | .displayed _ _ | .loginAttempt | .loginSuccess | .loginRejected
  | .sessionExpired | .started _ | .firstPage _ _ _ | .logout => .info
  | .requestFailed _ _ _ | .noContext _ | .loginFailed _ | .refreshFailed _ => .warn
  | .configRejected _ | .authQueryFailed _ => .error

/-- A horizon in a log line. -/
def horizonText : Horizon → String
  | .within seconds => "Within(" ++ Decimal.integer seconds.toInt ++ ")"
  | .unbounded => "Unbounded"

/-- A kind that may be missing, in a log line. -/
def kindText : Option PageKind → String
  | none => "None"
  | some kind => "Some(" ++ kind.name ++ ")"

/-- The stage and the action of a log line, with further fields. -/
def line (stage action : String) (more : List (String × Value)) : List (String × Value) :=
  ("stage", .text stage) :: ("action", .text action) :: more

/-- The fields of an error. -/
def errorFields (e : Api.Error) : List (String × Value) :=
  [("status", .number e.status.toNat), ("detail", .text e.message)]

/-- **The fields of an event.** -/
def fields : Event → List (String × Value)
  | .request method path =>
    line "client" "request" [("method", .text method.name), ("path", .text path)]
  | .requestFailed method path error =>
    line "client" "request_failed"
      ([("method", .text method.name), ("path", .text path)] ++ errorFields error)
  | .tokenCleared cookie => line "session" "clear_token" [("cookie", .text cookie)]
  | .displayed leaving entering =>
    line "pager" "display" [("from", .text (kindText leaving)), ("to", .text entering.name)]
  | .displayDropped entering => line "pager" "display_dropped" [("to", .text entering.name)]
  | .noContext .login => line "login" "initialize_without_context" []
  | .noContext .dashboard => line "dashboard" "initialize_without_context" []
  | .loginAttempt => line "auth" "login_attempt" []
  | .staleLogin => line "auth" "stale_login_completion" []
  | .loginSuccess => line "auth" "login_success" []
  | .loginRejected => line "auth" "login_rejected" []
  | .loginFailed error => line "auth" "login_failed" (errorFields error)
  | .staleRefresh => line "dashboard" "stale_refresh_completion" []
  | .refreshed certificates =>
    line "dashboard" "refreshed" [("certificates", .number certificates)]
  | .sessionExpired => line "dashboard" "session_expired" []
  | .refreshFailed error => line "dashboard" "refresh_failed" (errorFields error)
  | .horizonToggled horizon =>
    line "dashboard" "toggle_horizon" [("horizon", .text (horizonText horizon))]
  | .configRejected fault => line "config" "load_failed" [("detail", .text fault.message)]
  | .started version => line "bootstrap" "query_auth_method" [("version", .text version)]
  | .authQueryFailed error => line "bootstrap" "auth_query_failed" (errorFields error)
  | .pagerDropped => line "bootstrap" "pager_dropped" []
  | .firstPage auth hasToken kind =>
    line "bootstrap" "first_page"
      [("auth", .text auth.name), ("has_token", .flag hasToken), ("page", .text kind.name)]
  | .logout => line "auth" "logout" []

end Event

end Log

end CertDashboard
