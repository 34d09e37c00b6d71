import CertDashboard.Session.Run

set_option autoImplicit false
set_option relaxedAutoImplicit false

/-!
# The states of a live session

A live session is one whose pager is never let go and whose pages are those that the program itself
makes: login forms and dashboards. What happens to it from outside is any number of ordinary
actions, in any order.

## Main definitions

* `CertDashboard.Session.Action.IsOrdinary` — the actions that may happen to a live session.
* `CertDashboard.Session.Reachable` — the states of a live session.
* `CertDashboard.Session.Later` — what a live session may come to from a state.
* `CertDashboard.Session.shown` — the pages that were displayed, in order.

## Main results

* `CertDashboard.Session.Reachable.later` — what a live session comes to is a state of it.

## Design

Replies that are there before their request, probes and calls of a page's own methods are left
out: they stand for other surroundings than a browser. A page is displayed any number of times, by
whoever made it; it only has to be kept.
-/

namespace CertDashboard

/-- A login form, or a dashboard without a past: what the program itself makes pages of. -/
def PageBody.IsNew : PageBody → Prop
  | .login _ => True
  | .dashboard d => d = ⟨none, none, none⟩
  | .probe _ _ _ => False

/-- The timer of the next refresh, if the page is a dashboard and one is due. -/
def Page.timer? (page : Page) : Option Nat :=
  page.dashboard?.bind Dashboard.timer

/-- The page that a handler belongs to, if it belongs to one. -/
def Handler.page? : Handler → Option Nat
  | .submit p | .toggle p => some p
  | .logout => none

/-- The page that a request was sent by, if a page sent it. -/
def Purpose.page? : Purpose → Option Nat
  | .firstPage => none
  | .login p | .refresh p => some p

namespace Session

/-! ## Ordinary actions -/

/-- **What may happen to a live session.** Pages are made, kept, displayed and let go; the user
types and makes gestures; replies come, timers are up, the clock moves and cookies are replaced. -/
def Action.IsOrdinary : Action → Prop
  | .keep body plans | .present body plans => body.IsNew ∧ plans = []
  | .hold | .display _ | .drop _ | .type _ | .gesture _ | .reply _ | .elapse | .setClock _
  | .setCookies _ => True
  | .activate _ | .teardown _ | .giveContext _ | .close | .replay _ | .script _ | .fire _ => False

/-- **How a live session begins**: with no page, or with the question for the first one. -/
inductive Begins : Session → Prop where
  /-- With no page. -/
  | blank (services : Services) (now : Int64) (cookies : String) :
    Begins (start services now cookies [])
  /-- With the question how users prove who they are. -/
  | asking (services : Services) (now : Int64) (cookies : String) :
    Begins (start services now cookies []).bootstrap

/-- **The states of a live session.** -/
inductive Reachable : Session → Prop where
  /-- The state in which it begins. -/
  | begin {s : Session} : Begins s → Reachable s
  /-- The state behind one more action. -/
  | step {s : Session} (action : Action) :
    action.IsOrdinary → Reachable s → Reachable (s.apply action)

/-- **What a live session may come to** from a state. -/
inductive Later (s : Session) : Session → Prop where
  /-- The state itself. -/
  | refl : Later s s
  /-- The state behind one more action. -/
  | step {t : Session} (action : Action) : action.IsOrdinary → Later s t → Later s (t.apply action)

/-- What a live session comes to is a state of it. -/
theorem Reachable.later {s t : Session} (h : Reachable s) (hl : Later s t) : Reachable t := by
  induction hl with
  | refl => exact h
  | step action ha _ ih => exact .step action ha ih

/-- What pages are built from by the defaults: a backend on the same machine. -/
def standardServices : Services where
  client := ⟨⟨.http, ⟨[], [], .ipv4 0x7f000001, some 8111⟩, ⟨[[]], none, none⟩⟩⟩
  tuning := Config.standard.tuning
  cookie := Config.standard.sessionCookie

/-- A live session by the defaults, before anything happened. -/
def standardStart : Session :=
  start standardServices 0 "" []

/-- It is a state of a live session. -/
theorem reachable_standardStart : Reachable standardStart :=
  .begin (.blank standardServices 0 "")

/-! ## What is read off a session -/

/-- The kind of a page. -/
def kindOf (p : Nat) (s : Session) : Option PageKind :=
  (s.pages[p]?).map Page.kind

/-- The timer of the next refresh of a page, if one is due. -/
def timerOf (p : Nat) (s : Session) : Option Nat :=
  s.pages[p]?.bind Page.timer?

/-- **The pages that were displayed**, in order, each as often as it was: whenever a page is
initialized it binds its gesture. -/
def shown (s : Session) : List Nat :=
  s.handlers.filterMap Handler.page?

/-- The number of requests of a call that wait and that a page sent. -/
def inFlight (call : Api.Call) (p : Nat) (s : Session) : Nat :=
  s.wire.waiting.countP fun e =>
    decide (e.1 = s.services.client.request call ∧ e.2.page? = some p)

end Session

end CertDashboard
