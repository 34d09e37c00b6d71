import CertDashboard.Json.Decode
import CertDashboard.Url

set_option autoImplicit false
set_option relaxedAutoImplicit false

/-!
# Requests to the backend and what may become of them

## Main definitions

* `CertDashboard.Api.AuthMethod` — how the backend wants its users to prove who they are.
* `CertDashboard.Api.Credentials` — a user name and a password.
* `CertDashboard.Api.Request`, `CertDashboard.Api.Reply` — what is sent, and what comes back.
* `CertDashboard.Api.Failure` — the ways in which a call can fail, with their wording.
* `CertDashboard.Api.Error` — what is left of a failure: a message and a status.
-/

namespace CertDashboard

namespace Api

/-- **How users prove who they are.** -/
inductive AuthMethod where
  /-- Not at all. -/
  | anonymous
  /-- By a user name and a password. -/
  | userpass
  deriving DecidableEq, Repr

namespace AuthMethod

/-- The name of a method. -/
def name : AuthMethod → String
  | .anonymous => "None"
  | .userpass => "Userpass"

/-- **The method that the backend names.** Anything but the name of the one with a password, and no
name at all, means that there is none. -/
def ofName (given : Option String) : AuthMethod :=
  if given = some userpass.name then .userpass else .anonymous

end AuthMethod

/-- **A user name and a password.** -/
structure Credentials where
  /-- User name. -/
  username : String
  /-- Password. -/
  password : String
  deriving DecidableEq

namespace Credentials

/-- What is shown in the place of a password. -/
def mask : String := "\"<redacted>\""

/-- Credentials in a message, on one line, without the password. -/
def describe (c : Credentials) : String :=
  "Credentials \x7b username: " ++ Text.quoted c.username ++ ", password: " ++ mask ++ " \x7d"

/-- Credentials in a message, a line for each part, without the password. -/
def describeLines (c : Credentials) : String :=
  "Credentials \x7b\n    username: " ++ Text.quoted c.username ++ ",\n    password: " ++ mask ++
    ",\n\x7d"

end Credentials

/-- **The methods of the protocol** that are used. -/
inductive Method where
  /-- Asks for something. -/
  | get
  /-- Hands something over. -/
  | post
  deriving DecidableEq, Repr

/-- The name of a method. -/
def Method.name : Method → String
  | .get => "GET"
  | .post => "POST"

/-- **A request.** -/
structure Request where
  /-- Method. -/
  method : Method
  /-- Address. -/
  url : Url
  /-- Body, if there is one. -/
  body : Option String
  deriving DecidableEq

/-- **A response.** -/
structure Response where
  /-- Status. -/
  status : UInt16
  /-- Body. -/
  body : String
  deriving DecidableEq

/-- Whether a status reports success. -/
def isSuccess (status : UInt16) : Bool :=
  decide (200 ≤ status) && decide (status < 300)

/-- **What comes back**: a response, or the reason why there is none. -/
inductive Reply where
  /-- A response. -/
  | response (r : Response)
  /-- The reason why there is none. -/
  | failed (reason : String)
  deriving DecidableEq

/-- **A failure of a call.** -/
inductive Failure where
  /-- There was no response. -/
  | transport (reason : String)
  /-- The status reports no success. -/
  | http (status : UInt16)
  /-- The body of the request could not be written. -/
  | encode (fault : Json.Fault)
  /-- The body of the response is not what was expected. -/
  | decode (fault : Json.Fault)

namespace Failure

/-- **The wording of a failure.** -/
def message : Failure → String
  | .transport reason => "transport failure: " ++ reason
  | .http status => "request failed with status " ++ Decimal.natural status.toNat
  | .encode fault => "request encode failure: " ++ fault.message
  | .decode fault => "response decode failure: " ++ fault.message

/-- The status of a failure; zero when there is none. -/
def status : Failure → UInt16
  | .http status => status
  | .transport _ | .encode _ | .decode _ => 0

end Failure

/-- **What is left of a failure**: a message, and a status that is zero when there is none. -/
structure Error where
  /-- Message. -/
  message : String
  /-- Status. -/
  status : UInt16
  deriving DecidableEq, Repr

namespace Error

/-- The status of a session or of credentials that the backend does not accept. -/
def unauthorized : UInt16 := 401

/-- What is left of a failure. -/
def ofFailure (f : Failure) : Error :=
  ⟨f.message, f.status⟩

/-- Whether the backend does not accept the session or the credentials. -/
def isUnauthorized (e : Error) : Bool :=
  e.status == unauthorized

/-- **The wording of an error.** -/
def describe (e : Error) : String :=
  e.message ++ " (status " ++ Decimal.natural e.status.toNat ++ ")"

end Error

/-- **The body of a reply**, if it reports success. -/
def Reply.body : Reply → Except Failure String
  | .failed reason => .error (.transport reason)
  | .response r => if isSuccess r.status then .ok r.body else .error (.http r.status)

end Api

end CertDashboard
