import CertDashboard.Api.Basic
import CertDashboard.Certificate.Encoding
import CertDashboard.Log
import CertDashboard.Url.Reference

set_option autoImplicit false
set_option relaxedAutoImplicit false

/-!
# The client of the backend

## Main definitions

* `CertDashboard.Api.Client` — a client, by the address of its backend.
* `CertDashboard.Api.Client.connect` — the client of a base address.
* `CertDashboard.Api.Call` — the three calls, and `Client.request`, the request of each.
* `CertDashboard.Api.authMethodOf`, `loginOf`, `inventoryOf` — what the reply to each means.

## Design

A client is nothing but an address: it has no state, and a reply means the same whenever it comes.
-/

namespace CertDashboard

namespace Api

/-! ## Responses -/

/-- The answer to the question how users prove who they are. -/
def infoRecord : Json.Record (Option (Option String)) (Option String) where
  name := "InfoResponse"
  blank := none
  fields := [
    { name := "auth_type", isRequired := false, isGiven := fun d => d.isSome,
      read := fun o _ => (Json.Decoder.optional Json.Decoder.text o).map some }]
  build d := .ok (d.getD none)

/-- The inventory. -/
def cacheRecord : Json.Record (Option (Option (List Certificate))) (Option (List Certificate)) where
  name := "CacheResponse"
  blank := none
  fields := [
    { name := "content", isRequired := false, isGiven := fun d => d.isSome,
      read := fun o _ =>
        (Json.Decoder.optional (Json.Decoder.list Certificate.decoder) o).map some }]
  build d := .ok (d.getD none)

/-- How users prove who they are, from the text of a response. -/
def authMethodOfText (text : String) : Except Json.Fault AuthMethod :=
  (Json.decode infoRecord.decoder text.toList).map AuthMethod.ofName

/-- The certificates of the text of a response; an inventory without content has none. -/
def inventoryOfText (text : String) : Except Json.Fault (List Certificate) :=
  (Json.decode cacheRecord.decoder text.toList).map fun content => content.getD []

/-- A failure to decode, as one of the call. -/
def decoded {α : Type} (r : Except Json.Fault α) : Except Failure α :=
  match r with
  | .ok a => .ok a
  | .error fault => .error (.decode fault)

/-- A failure, as what is left of it. -/
def collapse {α : Type} (r : Except Failure α) : Except Error α :=
  match r with
  | .ok a => .ok a
  | .error failure => .error (.ofFailure failure)

/-- **How users prove who they are**, from the reply to that question. -/
def authMethodOf (reply : Reply) : Except Error AuthMethod :=
  collapse (reply.body.bind fun text => decoded (authMethodOfText text))

/-- **Whether a login succeeds**; the body of the reply does not matter. -/
def loginOf (reply : Reply) : Except Error Unit :=
  collapse (reply.body.map fun _ => ())

/-- **The certificates**, from the reply to a request for the inventory. -/
def inventoryOf (reply : Reply) : Except Error (List Certificate) :=
  collapse (reply.body.bind fun text => decoded (inventoryOfText text))

/-! ## Requests -/

/-- The body of a login. -/
def loginBody (c : Credentials) : Json :=
  .object [("username", .string c.username), ("password", .string c.password)]

/-- **The three calls.** -/
inductive Call where
  /-- Asks how users prove who they are. -/
  | authMethod
  /-- Hands credentials over. -/
  | login (credentials : Credentials)
  /-- Asks for the inventory. -/
  | inventory
  deriving DecidableEq

/-- The path of a call on the host of the backend. -/
def Call.path : Call → String
  | .authMethod => "/v1/info"
  | .login _ => "/v1/auth"
  | .inventory => "/v1/cache"

/-- The paths of all calls. -/
def Call.paths : List String := ["/v1/info", "/v1/auth", "/v1/cache"]

/-- The path of a call is one of them. -/
theorem Call.path_mem_paths (call : Call) : call.path ∈ Call.paths := by
  cases call <;> simp [Call.path, Call.paths]

/-- The path of a call is a resource of its own: it has neither a query nor a fragment, and nothing
in it is resolved or encoded. -/
theorem Call.parse_path {path : String} (h : path ∈ Call.paths) :
    let resource := Url.Resource.parse path.toList
    Url.renderPath resource.path = path.toList ∧ resource.query = none ∧
      resource.fragment = none := by
  revert path
  decide

/-- **A client**, by the address of its backend. -/
structure Client where
  /-- Address of the backend. -/
  baseUrl : Url
  deriving DecidableEq

/-- **Why a text is no address of a backend.** -/
inductive ConnectFault where
  /-- It is no address, or the path of a call is none there. -/
  | invalid (given : String) (fault : Url.Fault)
  /-- It is one, but not of the web. -/
  | scheme (name : List Char)
  deriving DecidableEq

/-- **The wording of a fault.** -/
def ConnectFault.message : ConnectFault → String
  | .invalid given fault => "invalid api base url: " ++ given ++ ": " ++ fault.message
  | .scheme name => "invalid api base url: unsupported scheme " ++ String.ofList name

namespace Client

/-- A path, resolved at an address. -/
def resolvePath (url : Url) (path : String) : Except ConnectFault Url.Target :=
  (url.join path).mapError (.invalid path)

/-- **The client of a base address**, at which the path of every call has to be a reference. -/
def connect (base : String) : Except ConnectFault Client :=
  match Url.Target.parse base with
  | .error fault => .error (.invalid base fault)
  | .ok (.other scheme) => .error (.scheme scheme)
  | .ok (.web url) => (Call.paths.mapM (resolvePath url)).map fun _ => ⟨url⟩

/-- The address of a call. -/
def endpoint (client : Client) (call : Call) : Url :=
  client.baseUrl.withPath call.path

/-- **The request of a call.** -/
def request (client : Client) (call : Call) : Request where
  method := match call with
    | .login _ => .post
    | .authMethod | .inventory => .get
  url := client.endpoint call
  body := match call with
    | .login credentials => some (loginBody credentials).text
    | .authMethod | .inventory => none

/-- **The path of a request is that of its call**, whatever the address of the backend is. -/
theorem path_request (client : Client) (call : Call) :
    (client.request call).url.path = call.path := by
  show String.ofList (Url.renderPath (Url.Resource.parse call.path.toList).path) = call.path
  rw [(Call.parse_path call.path_mem_paths).1, String.ofList_toList]

/-- The client in a message. -/
def describe (client : Client) : String :=
  "SessionClient \x7b base_url: " ++ Text.quoted client.baseUrl.render ++ ", .. \x7d"

end Client

/-! ## Log events -/

/-- What is logged when a request is sent. -/
def Request.sentEvent (r : Request) : Log.Event :=
  .request r.method r.url.path

/-- **What is logged when a reply comes**: a warning if there is no response or one that reports no
success. -/
def Request.replyEvents (r : Request) (reply : Reply) : List Log.Event :=
  match reply.body with
  | .ok _ => []
  | .error failure => [.requestFailed r.method r.url.path (.ofFailure failure)]

end Api

end CertDashboard
