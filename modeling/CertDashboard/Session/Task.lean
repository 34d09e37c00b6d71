import CertDashboard.Session.State

set_option autoImplicit false
set_option relaxedAutoImplicit false

/-!
# What a session does

Everything that a session does is a task. A task changes the state at once and leaves further tasks
to do, all of them before any task that was due already.

## Main definitions

* `CertDashboard.Session.Task` — what there may be to do.
* `CertDashboard.Session.teardown`, `CertDashboard.Session.activate` — the two ends of the life of a
  page on the screen.
* `CertDashboard.Session.perform` — one task.
* `CertDashboard.Session.Task.effort`, `CertDashboard.Session.reserve` — what bounds the tasks that
  one leads to.

## Design

A request whose reply is already there is settled before anything else, and a page may display
another one while it is initialized; both would be calls inside of calls. As a list of tasks they
are a loop, which ends because each task leaves less effort, counted with the replies and the plans
that are still unused.
-/

namespace CertDashboard

/-- What the login form says after the credentials were not accepted. -/
def credentialsMismatch : String := "The username and password did not match"

/-- What the login form says after the session was no longer accepted. -/
def sessionExpired : String := "Your session has expired"

/-- What the login form says after any other failure. -/
def genericFailure : String := "Something went wrong!"

namespace Session

/-- **What there is to do.** -/
inductive Task where
  /-- Displays a page. -/
  | display (page : Nat)
  /-- Displays the pages that a probe plans to display, or drops its plans. -/
  | follow (page : Nat) (isDisplayed : Bool)
  /-- Sends a request. -/
  | send (purpose : Purpose) (call : Api.Call)
  /-- Settles a request by its reply. -/
  | settle (purpose : Purpose) (request : Api.Request) (reply : Api.Reply)
  /-- A timer is up. -/
  | tick (callback : Nat)
  /-- Calls a handler. -/
  | handle (handler : Handler)
  /-- Reports that the program is ready. -/
  | announce (auth : Api.AuthMethod)

/-! ## Timers -/

/-- The timer of a page is cancelled, if one is due. -/
def cancelTimer (p : Nat) (s : Session) : Session :=
  match (s.pages[p]?.bind Page.dashboard?).bind Dashboard.timer with
  | none => s
  | some number =>
    let s := { s with timers := s.timers.filter fun t => t.number != number }
    (s.modifyDashboard p fun d => { d with timer := none }).emit (.cancelled number)

/-- A timer is set for the next refresh of a page, in the place of the one that is due. -/
def schedule (p : Nat) (s : Session) : Session :=
  let number := s.callbacks.length + 1
  let s := s.cancelTimer p
  let s : Session := { s with
    timers := s.timers ++ [⟨number, s.services.tuning.refreshSeconds⟩]
    callbacks := s.callbacks ++ [⟨p, false⟩] }
  s.modifyDashboard p fun d => { d with timer := some number }

/-! ## The dashboard -/

/-- The view of an inventory at a moment. -/
def inventoryView (now : Int64) (horizon : Horizon) (certificates : List Certificate) : View :=
  .ofBands (Expiry.bandsWithin now horizon certificates) (horizon == .unbounded)

/-- A dashboard is rendered, if it has an inventory. -/
def renderDashboard (p : Nat) (s : Session) : Session :=
  match s.pages[p]?.bind Page.dashboard? with
  | none => s
  | some d =>
    match d.snapshot with
    | none => s
    | some certificates =>
      let horizon := d.horizon.getD s.services.tuning.horizon
      (s.emit (.render .certificatePanel (inventoryView s.now horizon certificates))).emit
        (.visible .certificatePanel true)

/-- The horizon that the other one is changed for. -/
def otherHorizon (s : Session) (horizon : Option Horizon) : Horizon :=
  if horizon = some .unbounded then s.services.tuning.horizon else .unbounded

/-- The horizon of a dashboard is changed for the other one. -/
def toggle (p : Nat) (s : Session) : Session :=
  match (s.active? p).bind Page.dashboard? with
  | none => s
  | some d =>
    let horizon := s.otherHorizon d.horizon
    let s := (s.log (.horizonToggled horizon)).modifyDashboard p
      fun d => { d with horizon := some horizon }
    s.renderDashboard p

/-! ## The life of a page -/

/-- A page is given a context. -/
def giveContext (p : Nat) (s : Session) : Session :=
  let s := s.modifyPage p fun page => { page with hasContext := true }
  match (s.pages[p]?).map Page.body with
  | some (.probe name _ _) => s.emit (.journal name .context)
  | _ => s

/-- **A page is torn down**: it is no longer active, its timer is cancelled, its gestures are
unbound and its region is hidden. -/
def teardown (p : Nat) (s : Session) : Session :=
  match s.pages[p]? with
  | none => s
  | some page =>
    let s := s.modifyPage p fun page => { page with isActive := false }
    match page.body, page.hasContext with
    | .login _, true => (s.emit (.visible .loginPanel false)).unbind .loginSubmit
    | .dashboard _, true =>
      ((s.cancelTimer p).unbind .toggleHorizon).emit (.visible .certificatePanel false)
    | .login _, false | .dashboard _, false => s
    | .probe name _ _, _ => s.emit (.journal name .teardown)

/-- A login form becomes active. -/
def activateLogin (p : Nat) (message : Option String) (s : Session) : Session :=
  let s := s.modifyPage p fun page => { page with isActive := true }
  ((s.emit (.render .loginPanel (.login message))).bind .loginSubmit (.submit p)).emit
    (.visible .loginPanel true)

/-- A dashboard becomes active, with the horizon of the collapsed view. -/
def activateDashboard (p : Nat) (s : Session) : Session :=
  let horizon := s.services.tuning.horizon
  let s := (s.modifyPage p fun page => { page with isActive := true }).modifyDashboard p
    fun d => { d with horizon := some horizon }
  (s.bind .toggleHorizon (.toggle p)).emit (.visible .certificatePanel true)

/-- **A page is initialized**: it becomes active, its gestures are bound and its region is shown. A
dashboard is refreshed at once. Without a context nothing is done. -/
def activate (p : Nat) (s : Session) : Session × List Task :=
  match s.pages[p]? with
  | none => (s, [])
  | some page =>
    match page.body, page.hasContext with
    | .login message, true => (s.activateLogin p message, [])
    | .dashboard _, true => (s.activateDashboard p, [.send (.refresh p) .inventory])
    | .login _, false => (s.log (.noContext .login), [])
    | .dashboard _, false => (s.log (.noContext .dashboard), [])
    | .probe name _ _, hasContext =>
      (s.emit (.journal name .activation), [.follow p hasContext])

/-- The current page leaves the screen, if there is one. -/
def leave (s : Session) : Session :=
  match s.current with
  | none => s
  | some p => { s with current := none }.teardown p

/-- **A page is displayed**: the current one is torn down before it is given a context. -/
def display (p : Nat) (page : Page) (s : Session) : Session × List Task :=
  let s := (s.log (.displayed s.currentKind page.kind)).leave
  let s := { s with current := some p }.giveContext p
  (s.emit (.visible .hamburgerMenu (!page.hidesMenu))).activate p

/-! ## Replies -/

/-- A new page is made, and displayed next. -/
def displayNew (page : Page) (s : Session) : Session × List Task :=
  let (p, s) := s.addPage page
  (s, [.display p])

/-- The session cookie is removed. -/
def clearToken (s : Session) : Session :=
  (s.log (.tokenCleared s.services.cookie)).writeCookie (Cookie.expiry s.services.cookie)

/-- Logging out is made possible if users have to prove who they are. -/
def wireLogout (auth : Api.AuthMethod) (s : Session) : Session :=
  match auth with
  | .anonymous => s.emit (.logoutAvailable false)
  | .userpass => (s.emit (.logoutAvailable true)).bind .logout .logout

/-- The page to start with: the login form, if users have to prove who they are and there is no
session token. -/
def firstPage (auth : Api.AuthMethod) (hasToken : Bool) : Page :=
  if auth = .userpass ∧ hasToken = false then .login none else .dashboard

/-- The first page is chosen, once it is known how users prove who they are. -/
def settleFirst (r : Except Api.Error Api.AuthMethod) (s : Session) : Session × List Task :=
  match r with
  | .error e => ((s.log (.authQueryFailed e)).emit (.ready (.error e)), [])
  | .ok auth =>
    if s.isAlive then
      let s := s.wireLogout auth
      let page := firstPage auth s.token.isSome
      let (s, tasks) :=
        (s.log (.firstPage auth s.token.isSome page.kind)).displayNew page
      (s, tasks ++ [.announce auth])
    else (s.log .pagerDropped, [])

/-- The reply to a login, on the page that sent it. -/
def settleLogin (r : Except Api.Error Unit) (s : Session) : Session × List Task :=
  match r with
  | .ok () => (s.log .loginSuccess).displayNew .dashboard
  | .error e =>
    if e.isUnauthorized then
      (s.log .loginRejected).displayNew (.login (some credentialsMismatch))
    else (s.log (.loginFailed e)).displayNew (.login (some genericFailure))

/-- The reply to a refresh, on the page that sent it. -/
def settleRefresh (p : Nat) (r : Except Api.Error (List Certificate)) (s : Session) :
    Session × List Task :=
  match r with
  | .ok certificates =>
    let s := (s.log (.refreshed certificates.length)).modifyDashboard p
      fun d => { d with snapshot := some certificates }
    ((s.renderDashboard p).schedule p, [])
  | .error e =>
    if e.isUnauthorized then
      ((s.log .sessionExpired).clearToken).displayNew (.login (some sessionExpired))
    else (s.log (.refreshFailed e)).displayNew (.login (some genericFailure))

/-- **A request is settled by its reply.** What it was for may be gone by now. -/
def settle (purpose : Purpose) (request : Api.Request) (reply : Api.Reply) (s : Session) :
    Session × List Task :=
  let s := (request.replyEvents reply).foldl (fun s e => s.log e) s
  match purpose with
  | .firstPage => s.settleFirst (Api.authMethodOf reply)
  | .login p =>
    if (s.active? p).isSome then s.settleLogin (Api.loginOf reply) else (s.log .staleLogin, [])
  | .refresh p =>
    if (s.active? p).isSome then s.settleRefresh p (Api.inventoryOf reply)
    else (s.log .staleRefresh, [])

/-! ## Requests, timers and gestures -/

/-- **A request is sent.** It waits, unless its reply is already there. -/
def send (purpose : Purpose) (call : Api.Call) (s : Session) : Session × List Task :=
  let request := s.services.client.request call
  let s := s.log request.sentEvent
  match s.script with
  | [] => ({ s with wire := s.wire.park request purpose }.emit (.sent request true), [])
  | reply :: script =>
    ({ s with script := script }.emit (.sent request false), [.settle purpose request reply])

/-- **A timer is up**: its page is refreshed, if it is active. -/
def tick (n : Nat) (s : Session) : Session × List Task :=
  match s.callbacks[n]? with
  | none => (s, [])
  | some callback =>
    if callback.isSpent then (s, [])
    else
      let s := { s with callbacks := s.callbacks.modify n fun c => { c with isSpent := true } }
      let s := s.modifyDashboard callback.page fun d => { d with timer := none }
      if (s.active? callback.page).isSome then
        (s, [.send (.refresh callback.page) .inventory])
      else (s, [])

/-- The login form of a page is submitted. -/
def submit (p : Nat) (s : Session) : Session × List Task :=
  if (s.active? p).isSome then
    let credentials := s.form
    let s := { s with form := { credentials with password := "" } }.emit .clearPassword
    (s.log .loginAttempt, [.send (.login p) (.login credentials)])
  else (s, [])

/-- **A handler is called.** -/
def handle (handler : Handler) (s : Session) : Session × List Task :=
  match handler with
  | .submit p => s.submit p
  | .toggle p => (s.toggle p, [])
  | .logout => ((s.log .logout).clearToken).displayNew (.login none)

/-- The pages that a probe plans to display are taken out of the plans. -/
def dropPlans (p : Nat) (s : Session) : Session :=
  { s with plans := s.plans.filter fun plan => plan.1 != p }

/-! ## Tasks -/

/-- **One task**: the state behind it, and the tasks that it leaves. -/
def perform (task : Task) (s : Session) : Session × List Task :=
  match task with
  | .display p =>
    match s.pages[p]? with
    | none => (s, [])
    | some page =>
      if s.isAlive then s.display p page else (s.log (.displayDropped page.kind), [])
  | .follow p isDisplayed =>
    (s.dropPlans p, if isDisplayed then (s.plansOf p).map .display else [])
  | .send purpose call => s.send purpose call
  | .settle purpose request reply => s.settle purpose request reply
  | .tick n => s.tick n
  | .handle handler => s.handle handler
  | .announce auth => (s.emit (.ready (.ok auth)), [])

/-- What a task may cost, the replies and the plans that it uses up apart. -/
def Task.effort : Task → Nat
  | .display _ => 2
  | .follow _ _ => 1
  | .send _ _ => 1
  | .settle _ _ _ => 4
  | .tick _ => 2
  | .handle _ => 3
  | .announce _ => 1

/-- What several tasks may cost. -/
def effort : List Task → Nat
  | [] => 0
  | t :: rest => t.effort + effort rest

/-- What the replies and plans that are still unused may cost. -/
def reserve (s : Session) : Nat :=
  4 * s.script.length + 2 * s.plans.length

end Session

end CertDashboard
