import CertDashboard.Api.Client

set_option autoImplicit false
set_option relaxedAutoImplicit false

/-!
# Requests on the wire

Requests wait for their replies in the order in which they were sent; a reply is always for the
oldest one.

## Main definitions

* `CertDashboard.Api.Wire` — the requests that wait, each with what its reply is for.
* `CertDashboard.Api.Exchange` — a client whose calls are numbered, and the results so far.
* `CertDashboard.Api.Exchange.call`, `CertDashboard.Api.Exchange.reply` — one call, one reply.
-/

namespace CertDashboard

namespace Api

/-- **The requests that wait**, oldest first, each with what its reply is for. -/
structure Wire (κ : Type) where
  /-- Requests that wait. -/
  waiting : List (Request × κ)
  /-- All requests that ever waited, in order. -/
  parked : List Request

namespace Wire

variable {κ : Type}

/-- No request was ever sent. -/
def idle : Wire κ :=
  ⟨[], []⟩

/-- One more request waits. -/
def park (w : Wire κ) (request : Request) (purpose : κ) : Wire κ :=
  ⟨w.waiting ++ [(request, purpose)], w.parked ++ [request]⟩

/-- The oldest request, if one waits, and the wire without it. -/
def pop? (w : Wire κ) : Option ((Request × κ) × Wire κ) :=
  match w.waiting with
  | [] => none
  | oldest :: rest => some (oldest, { w with waiting := rest })

/-- The paths of the requests that wait. -/
def waitingPaths (w : Wire κ) : List String :=
  w.waiting.map fun p => p.1.url.path

/-- The paths of all requests that ever waited. -/
def parkedPaths (w : Wire κ) : List String :=
  w.parked.map fun r => r.url.path

end Wire

/-- **What a reply means**, by the call that it is for. -/
inductive Result where
  /-- How users prove who they are. -/
  | auth (r : Except Error AuthMethod)
  /-- Whether the login succeeded. -/
  | login (r : Except Error Unit)
  /-- The inventory. -/
  | inventory (r : Except Error (List Certificate))

/-- What a reply to a call means. -/
def Call.result (call : Call) (reply : Reply) : Result :=
  match call with
  | .authMethod => .auth (authMethodOf reply)
  | .login _ => .login (loginOf reply)
  | .inventory => .inventory (inventoryOf reply)

/-- **A client at work.** Calls are numbered from zero. -/
structure Exchange where
  /-- The client. -/
  client : Client
  /-- The requests that wait, each with its call and the number of that. -/
  wire : Wire (Nat × Call)
  /-- The number of calls so far. -/
  calls : Nat
  /-- The results so far, each with the number of its call, in the order in which they came. -/
  results : List (Nat × Result)

namespace Exchange

/-- A client that has not called. -/
def start (client : Client) : Exchange :=
  ⟨client, .idle, 0, []⟩

/-- **One call**: its request waits. -/
def call (x : Exchange) (call : Call) : Exchange :=
  { x with
    wire := x.wire.park (x.client.request call) (x.calls, call)
    calls := x.calls + 1 }

/-- **One reply**: it settles the oldest call; with none waiting it is for nobody. -/
def reply (x : Exchange) (reply : Reply) : Exchange :=
  match x.wire.pop? with
  | none => x
  | some ((_, number, call), wire) =>
    { x with wire := wire, results := x.results ++ [(number, call.result reply)] }

end Exchange

end Api

end CertDashboard
