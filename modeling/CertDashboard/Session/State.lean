import CertDashboard.Api.Wire
import CertDashboard.Cookie.Jar
import CertDashboard.View

set_option autoImplicit false
set_option relaxedAutoImplicit false

/-!
# The state of a session

A session is the dashboard in its surroundings: pages, of which one at most is current, the requests
and timers that they wait for, and what there is to see and to read of all that.

## Main definitions

* `CertDashboard.Page` — a page: a login form, a dashboard, or a probe that records its life.
* `CertDashboard.Session.Effect` — everything that a session does to its surroundings.
* `CertDashboard.Session` — the state.
* `CertDashboard.Session.isLive` — the pages that something still holds.

## Design

Pages are numbered in the order in which they are made and are never removed; whether one still
counts is a question of who holds it. A page is held by being current, by being kept from outside,
and by the plan of a page that is held to display it.

Handlers, timers and requests name their page and do not hold it. What they do when their page is
gone is nothing, but that may be logged.

All effects go into one trace, in order. What was last shown in a region, the handlers bound so far,
the requests sent so far and the log are read off it.
-/

namespace CertDashboard

/-- **A dashboard.** -/
structure Dashboard where
  /-- Horizon of the view; none before the page is initialized. -/
  horizon : Option Horizon
  /-- The last inventory, if there is one. -/
  snapshot : Option (List Certificate)
  /-- The timer of the next refresh, if one is due. -/
  timer : Option Nat
  deriving DecidableEq

/-- **What a page is.** -/
inductive PageBody where
  /-- A login form, with a message if there is one. -/
  | login (message : Option String)
  /-- A dashboard. -/
  | dashboard (d : Dashboard)
  /-- A probe, which does nothing but record its life and display the pages that it plans to. -/
  | probe (name : String) (kind : PageKind) (hidesMenu : Bool)
  deriving DecidableEq

/-- **A page.** -/
structure Page where
  /-- What it is. -/
  body : PageBody
  /-- Whether it was given a context. -/
  hasContext : Bool
  /-- Whether it is initialized and not torn down since. -/
  isActive : Bool
  deriving DecidableEq

namespace Page

/-- A page that was not displayed. -/
def fresh (body : PageBody) : Page :=
  ⟨body, false, false⟩

/-- A login form. -/
def login (message : Option String) : Page :=
  fresh (.login message)

/-- A dashboard. -/
def dashboard : Page :=
  fresh (.dashboard ⟨none, none, none⟩)

/-- The kind of a page. -/
def kind (p : Page) : PageKind :=
  match p.body with
  | .login _ => .login
  | .dashboard _ => .dashboard
  | .probe _ kind _ => kind

/-- Whether a page hides the menu. -/
def hidesMenu (p : Page) : Bool :=
  match p.body with
  | .login _ => true
  | .dashboard _ => false
  | .probe _ _ hidesMenu => hidesMenu

/-- The dashboard of a page, if it is one. -/
def dashboard? (p : Page) : Option Dashboard :=
  match p.body with
  | .dashboard d => some d
  | .login _ | .probe _ _ _ => none

/-- A page with another dashboard, if it is one. -/
def mapDashboard (f : Dashboard → Dashboard) (p : Page) : Page :=
  match p.body with
  | .dashboard d => { p with body := .dashboard (f d) }
  | .login _ | .probe _ _ _ => p

end Page

/-- **What happens in the life of a page.** -/
inductive Stage where
  /-- It is given a context. -/
  | context
  /-- It is initialized. -/
  | activation
  /-- It is torn down. -/
  | teardown
  deriving DecidableEq, Repr

/-- The name of a stage. -/
def Stage.name : Stage → String
  | .context => "context"
  | .activation => "initialize"
  | .teardown => "teardown"

/-- **What a gesture is bound to**, by the number of the page. -/
inductive Handler where
  /-- Submits the login form of a page. -/
  | submit (page : Nat)
  /-- Changes the horizon of a page. -/
  | toggle (page : Nat)
  /-- Logs out. -/
  | logout
  deriving DecidableEq, Repr

/-- **What a request is for**, by the number of the page. -/
inductive Purpose where
  /-- To choose the first page. -/
  | firstPage
  /-- To log in from a page. -/
  | login (page : Nat)
  /-- To refresh a page. -/
  | refresh (page : Nat)
  deriving DecidableEq, Repr

/-- **What pages are built from.** -/
structure Services where
  /-- Client of the backend. -/
  client : Api.Client
  /-- How the dashboard is tuned. -/
  tuning : Tuning
  /-- Cookie that holds the session token. -/
  cookie : String
  deriving DecidableEq

/-- A timer that is due. -/
structure Timer where
  /-- Its number, counted from one. -/
  number : Nat
  /-- Its delay in seconds. -/
  delay : UInt64
  deriving DecidableEq, Repr

/-- What happens when a timer is up; once at most. -/
structure Callback where
  /-- The page to refresh. -/
  page : Nat
  /-- Whether it happened. -/
  isSpent : Bool
  deriving DecidableEq, Repr

namespace Session

/-- **An effect on the surroundings.** -/
inductive Effect where
  /-- A view is rendered into a region. -/
  | render (surface : Surface) (view : View)
  /-- A region is shown or hidden. -/
  | visible (surface : Surface) (isVisible : Bool)
  /-- A gesture is bound. -/
  | bind (gesture : Gesture) (handler : Handler)
  /-- A gesture is unbound. -/
  | unbind (gesture : Gesture)
  /-- The password field is emptied. -/
  | clearPassword
  /-- Logging out is made possible or impossible. -/
  | logoutAvailable (isAvailable : Bool)
  /-- Something is logged. -/
  | log (event : Log.Event)
  /-- Something happens in the life of a probe. -/
  | journal (name : String) (stage : Stage)
  /-- A request is sent, and has to wait for its reply or not. -/
  | sent (request : Api.Request) (waits : Bool)
  /-- An assignment is written into the cookie jar. -/
  | cookie (assignment : String)
  /-- A timer is cancelled. -/
  | cancelled (number : Nat)
  /-- The program is ready, or it is not. -/
  | ready (outcome : Except Api.Error Api.AuthMethod)

end Session

/-- **The state of a session.** -/
structure Session where
  /-- What pages are built from. -/
  services : Services
  /-- The clock. -/
  now : Int64
  /-- The cookie jar. -/
  jar : Cookie.Jar
  /-- What is typed into the login form. -/
  form : Api.Credentials
  /-- What each gesture is bound to. -/
  bindings : Gesture → Option Handler
  /-- All pages that were ever made. -/
  pages : List Page
  /-- The current page. -/
  current : Option Nat
  /-- Whether pages can be displayed. -/
  isAlive : Bool
  /-- The pages that are kept from outside, `none` where one was let go. -/
  held : List (Option Nat)
  /-- For each probe the pages that it will display when it is initialized. -/
  plans : List (Nat × Nat)
  /-- The requests that wait for a reply. -/
  wire : Api.Wire Purpose
  /-- Replies to the next requests, which then have not to wait. -/
  script : List Api.Reply
  /-- The timers that are due, oldest first. -/
  timers : List Timer
  /-- What happens when each timer is up, by the order in which they were set. -/
  callbacks : List Callback
  /-- All effects, in order. -/
  trace : List Session.Effect

namespace Session

/-- A session in which nothing happened. -/
def start (services : Services) (now : Int64) (cookies : String) (script : List Api.Reply) :
    Session where
  services := services
  now := now
  jar := ⟨cookies⟩
  form := ⟨"", ""⟩
  bindings := fun _ => none
  pages := []
  current := none
  isAlive := true
  held := []
  plans := []
  wire := .idle
  script := script
  timers := []
  callbacks := []
  trace := []

/-! ## Small changes -/

/-- One more effect. -/
def emit (e : Effect) (s : Session) : Session :=
  { s with trace := s.trace ++ [e] }

/-- One more log event. -/
def log (e : Log.Event) (s : Session) : Session :=
  s.emit (.log e)

/-- One more page, and its number. -/
def addPage (page : Page) (s : Session) : Nat × Session :=
  (s.pages.length, { s with pages := s.pages ++ [page] })

/-- A page is changed. -/
def modifyPage (p : Nat) (f : Page → Page) (s : Session) : Session :=
  { s with pages := s.pages.modify p f }

/-- A dashboard is changed. -/
def modifyDashboard (p : Nat) (f : Dashboard → Dashboard) (s : Session) : Session :=
  s.modifyPage p (Page.mapDashboard f)

/-- A gesture is bound. -/
def bind (gesture : Gesture) (handler : Handler) (s : Session) : Session :=
  { s with bindings := fun g => if g = gesture then some handler else s.bindings g }.emit
    (.bind gesture handler)

/-- A gesture is unbound. -/
def unbind (gesture : Gesture) (s : Session) : Session :=
  { s with bindings := fun g => if g = gesture then none else s.bindings g }.emit (.unbind gesture)

/-- An assignment is written into the cookie jar. -/
def writeCookie (assignment : String) (s : Session) : Session :=
  { s with jar := s.jar.write assignment }.emit (.cookie assignment)

/-! ## Who holds a page -/

/-- The pages that are current or kept from outside. -/
def roots (s : Session) : List Nat :=
  s.current.toList ++ s.held.filterMap id

/-- The pages that a page plans to display. -/
def plansOf (p : Nat) (s : Session) : List Nat :=
  (s.plans.filter fun plan => plan.1 == p).map Prod.snd

/-- **The pages that something holds.** A page plans to display older pages only, so going from the
newest page to the oldest one finds them all. -/
def live (s : Session) : List Nat :=
  (List.range s.pages.length).foldr
    (fun p held => if p ∈ held then held ++ s.plansOf p else held) s.roots

/-- **Whether something holds a page.** -/
def isLive (p : Nat) (s : Session) : Bool :=
  decide (p ∈ s.live)

/-- The page, if something holds it and it is active. -/
def active? (p : Nat) (s : Session) : Option Page :=
  if s.isLive p then s.pages[p]?.filter Page.isActive else none

/-- The session token, if there is one. -/
def token (s : Session) : Option String :=
  Cookie.token s.jar.raw s.services.cookie

/-! ## What there is to see -/

/-- The kind of the current page. -/
def currentKind (s : Session) : Option PageKind :=
  (s.current.bind fun p => s.pages[p]?).map Page.kind

/-- Whether a region was last shown or hidden. -/
def isVisible (surface : Surface) (s : Session) : Option Bool :=
  s.trace.reverse.findSome? fun e =>
    match e with
    | .visible target isVisible => if target = surface then some isVisible else none
    | _ => none

/-- The views that were rendered into a region, in order. -/
def renders (surface : Surface) (s : Session) : List View :=
  s.trace.filterMap fun e =>
    match e with
    | .render target view => if target = surface then some view else none
    | _ => none

/-- The number of views that were rendered. -/
def renderCount (s : Session) : Nat :=
  s.trace.countP fun e =>
    match e with
    | .render _ _ => true
    | _ => false

/-- Whether logging out was last made possible or impossible. -/
def isLogoutAvailable (s : Session) : Option Bool :=
  s.trace.reverse.findSome? fun e =>
    match e with
    | .logoutAvailable isAvailable => some isAvailable
    | _ => none

/-- All handlers that were ever bound, in order. -/
def handlers (s : Session) : List Handler :=
  s.trace.filterMap fun e =>
    match e with
    | .bind _ handler => some handler
    | _ => none

/-- The log. -/
def events (s : Session) : List Log.Event :=
  s.trace.filterMap fun e =>
    match e with
    | .log event => some event
    | _ => none

/-- All requests that were ever sent, in order. -/
def requests (s : Session) : List Api.Request :=
  s.trace.filterMap fun e =>
    match e with
    | .sent request _ => some request
    | _ => none

/-- The state of the pager in a message. -/
def describePager (s : Session) : String :=
  "Pager \x7b state: " ++
    (match s.currentKind with
      | none => "NoPage"
      | some kind => "Showing(" ++ kind.name ++ ")") ++ ", .. \x7d"

end Session

end CertDashboard
