import CertDashboard.Proofs.Session.Quiet

set_option autoImplicit false
set_option relaxedAutoImplicit false

/-!
# What a session does with its secrets

The secrets of a session are the password that is typed and the cookies. A session without them is
one whose password field and cookie jar are empty, and whose logins have no bodies. Nearly all that
a session does it does without them just the same: a login takes the password along, and the first
page depends on whether there is a session token.

## Main definitions

* `CertDashboard.Api.Request.conceal` — a request without its body, if it is a login.
* `CertDashboard.Session.conceal` — a session without its secrets.
* `CertDashboard.Session.Task.ChoosesFirst` — the one task that depends on the session token.

## Main results

* `CertDashboard.Session.concealed_perform` — one task without the secrets.
* `CertDashboard.Session.concealed_perform_congr` — one task in two sessions that differ in secrets
  only.

## Design

Each small change of a session commutes with concealment, and says so in one lemma. A task is put
together from these changes. Some tasks bring a secret back in, as a login does, and so they commute
only if their result is concealed once more.
-/

namespace CertDashboard

namespace Api

/-! ## Requests -/

/-- Credentials without their password. -/
def Credentials.conceal (c : Credentials) : Credentials :=
  { c with password := "" }

/-- Credentials without their password have none left. -/
@[simp] theorem Credentials.conceal_conceal (c : Credentials) : c.conceal.conceal = c.conceal := rfl

/-- A call without its password. -/
def Call.conceal : Call → Call
  | .login credentials => .login credentials.conceal
  | .authMethod => .authMethod
  | .inventory => .inventory

/-- **A request without its body, if it is a login.** -/
def Request.conceal (r : Request) : Request :=
  if r.method = .post ∧ r.url.path = "/v1/auth" then { r with body := none } else r

/-- Concealing a request leaves its method and its address alone. -/
theorem Request.conceal_eq (r : Request) :
    r.conceal.method = r.method ∧ r.conceal.url = r.url := by
  unfold Request.conceal
  split <;> exact ⟨rfl, rfl⟩

/-- What is logged when a request is sent does not depend on its body. -/
@[simp] theorem Request.sentEvent_conceal (r : Request) : r.conceal.sentEvent = r.sentEvent := by
  obtain ⟨hmethod, hurl⟩ := r.conceal_eq
  rw [Request.sentEvent, hmethod, hurl, Request.sentEvent]

/-- What is logged when a reply comes does not depend on the body of its request. -/
@[simp] theorem Request.replyEvents_conceal (r : Request) (reply : Reply) :
    r.conceal.replyEvents reply = r.replyEvents reply := by
  obtain ⟨hmethod, hurl⟩ := r.conceal_eq
  rw [Request.replyEvents, hmethod, hurl, Request.replyEvents]

/-- A concealed request has nothing left to conceal. -/
@[simp] theorem Request.conceal_conceal (r : Request) : r.conceal.conceal = r.conceal := by
  obtain ⟨hmethod, hurl⟩ := r.conceal_eq
  rw [Request.conceal, hmethod, hurl]
  unfold Request.conceal
  split <;> rfl

/-- The request of a call without its password is the request of the call, but for the body of a
login. -/
theorem Client.conceal_request (client : Client) (call : Call) :
    (client.request call.conceal).conceal = (client.request call).conceal := by
  cases call with
  | authMethod => rfl
  | inventory => rfl
  | login credentials =>
    have hlogin : ∀ c : Credentials, (client.request (.login c)).conceal =
        { client.request (.login c) with body := none } :=
      fun c => if_pos ⟨rfl, client.path_request (.login c)⟩
    exact (hlogin _).trans (hlogin credentials).symm

end Api

namespace Session

/-! ## Without secrets -/

/-- An effect without its secrets. -/
@[simp] def Effect.conceal : Effect → Effect
  | .sent request waits => .sent request.conceal waits
  | e => e

/-- What is to do, without its secrets. -/
@[simp] def Task.conceal : Task → Task
  | .send purpose call => .send purpose call.conceal
  | .settle purpose request reply => .settle purpose request.conceal reply
  | t => t

/-- What happens from outside, without its secrets. -/
def Action.conceal : Action → Action
  | .type credentials => .type credentials.conceal
  | .setCookies _ => .setCookies ""
  | a => a

/-- **A session without its secrets.** -/
def conceal (s : Session) : Session := { s with
  jar := ⟨""⟩
  form := s.form.conceal
  wire := ⟨s.wire.waiting.map fun e => (e.1.conceal, e.2), s.wire.parked.map Api.Request.conceal⟩
  trace := s.trace.map Effect.conceal }

/-- A session and what is left to do in it, without their secrets. -/
def concealed (r : Session × List Task) : Session × List Task :=
  (r.1.conceal, r.2.map Task.conceal)

/-- A request that is sent is concealed. -/
theorem Effect.conceal_sent (request : Api.Request) (waits : Bool) :
    (Effect.sent request waits).conceal = .sent request.conceal waits := rfl

/-- An effect without secrets has none left. -/
theorem Effect.conceal_conceal (e : Effect) : e.conceal.conceal = e.conceal := by
  cases e <;> simp

/-- A session without secrets has none left. -/
@[simp] theorem conceal_conceal (s : Session) : s.conceal.conceal = s.conceal := by
  simp [conceal, Effect.conceal_conceal, -Effect.conceal]

section Reads

variable (s : Session)

/-! ## What is no secret -/

/-- What pages are built from is no secret. -/
@[simp] theorem services_conceal : s.conceal.services = s.services := rfl

/-- The clock is no secret. -/
@[simp] theorem now_conceal : s.conceal.now = s.now := rfl

/-- The pages are no secret. -/
@[simp] theorem pages_conceal : s.conceal.pages = s.pages := rfl

/-- The current page is no secret. -/
@[simp] theorem current_conceal : s.conceal.current = s.current := rfl

/-- The kind of the current page is no secret. -/
@[simp] theorem currentKind_conceal : s.conceal.currentKind = s.currentKind := rfl

/-- What happens when timers are up is no secret. -/
@[simp] theorem callbacks_conceal : s.conceal.callbacks = s.callbacks := rfl

/-- The pages that answer are no secret. -/
@[simp] theorem active?_conceal (p : Nat) : s.conceal.active? p = s.active? p := rfl

/-- The pages that are kept are no secret. -/
@[simp] theorem heldAt_conceal (place : Nat) : s.conceal.heldAt place = s.heldAt place := rfl

/-- The handlers that were bound are no secret. -/
@[simp] theorem handlers_conceal : s.conceal.handlers = s.handlers := by
  simp only [handlers, conceal, List.filterMap_map]
  congr 1
  funext e
  cases e <;> rfl

end Reads

section Commutes

variable (s : Session)

/-! ## Small changes

Each of them is the same without the secrets. -/

/-- An effect. -/
@[simp] theorem conceal_emit (e : Effect) : (s.emit e).conceal = s.conceal.emit e.conceal := by
  simp [conceal, emit, -Effect.conceal]

/-- A log event. -/
@[simp] theorem conceal_log (e : Log.Event) : (s.log e).conceal = s.conceal.log e :=
  conceal_emit s (.log e)

/-- Several log events. -/
@[simp] theorem conceal_foldl_log (events : List Log.Event) :
    (events.foldl (fun s e => s.log e) s).conceal =
      events.foldl (fun s e => s.log e) s.conceal := by
  induction events generalizing s with
  | nil => rfl
  | cons e events ih => rw [List.foldl_cons, ih, conceal_log, List.foldl_cons]

/-- A page that is changed. -/
@[simp] theorem conceal_modifyPage (p : Nat) (f : Page → Page) :
    (s.modifyPage p f).conceal = s.conceal.modifyPage p f := rfl

/-- A dashboard that is changed. -/
@[simp] theorem conceal_modifyDashboard (p : Nat) (f : Dashboard → Dashboard) :
    (s.modifyDashboard p f).conceal = s.conceal.modifyDashboard p f := rfl

/-- A gesture that is bound. -/
@[simp] theorem conceal_bind (g : Gesture) (h : Handler) :
    (s.bind g h).conceal = s.conceal.bind g h :=
  conceal_emit _ (.bind g h)

/-- A gesture that is unbound. -/
@[simp] theorem conceal_unbind (g : Gesture) : (s.unbind g).conceal = s.conceal.unbind g :=
  conceal_emit _ (.unbind g)

/-- An assignment that is written into the cookie jar, where it is concealed. -/
@[simp] theorem conceal_writeCookie (assignment : String) :
    (s.writeCookie assignment).conceal = s.conceal.emit (.cookie assignment) :=
  conceal_emit _ (.cookie assignment)

/-- A timer that is cancelled. -/
@[simp] theorem conceal_cancelTimer (p : Nat) :
    (s.cancelTimer p).conceal = s.conceal.cancelTimer p := by
  unfold cancelTimer
  rw [pages_conceal]
  split
  · rfl
  · exact conceal_emit _ _

/-- A timer that is set. -/
@[simp] theorem conceal_schedule (p : Nat) : (s.schedule p).conceal = s.conceal.schedule p := by
  unfold schedule
  rw [← conceal_cancelTimer]
  rfl

/-- A dashboard that is rendered. -/
@[simp] theorem conceal_renderDashboard (p : Nat) :
    (s.renderDashboard p).conceal = s.conceal.renderDashboard p := by
  unfold renderDashboard
  rw [pages_conceal]
  split
  · rfl
  · split
    · rfl
    · simp

/-- A horizon that is changed. -/
@[simp] theorem conceal_toggle (p : Nat) : (s.toggle p).conceal = s.conceal.toggle p := by
  unfold toggle
  rw [active?_conceal]
  split
  · rfl
  · simp [otherHorizon]

/-- A context that is given. -/
@[simp] theorem conceal_giveContext (p : Nat) :
    (s.giveContext p).conceal = s.conceal.giveContext p := by
  unfold giveContext
  simp only [← conceal_modifyPage, pages_conceal]
  split
  · simp
  · rfl

/-- A page that is torn down. -/
@[simp] theorem conceal_teardown (p : Nat) : (s.teardown p).conceal = s.conceal.teardown p := by
  unfold teardown
  rw [pages_conceal]
  split
  · rfl
  · dsimp only
    split <;> simp

/-- The current page that leaves the screen. -/
@[simp] theorem conceal_leave : s.leave.conceal = s.conceal.leave := by
  unfold leave
  rw [current_conceal]
  split
  · rfl
  · exact conceal_teardown _ _

/-- Logging out that is made possible, or not. -/
@[simp] theorem conceal_wireLogout (auth : Api.AuthMethod) :
    (s.wireLogout auth).conceal = s.conceal.wireLogout auth := by
  cases auth <;> simp [wireLogout]

/-- The session token that is removed. -/
theorem conceal_clearToken : s.clearToken.conceal =
    (s.conceal.log (.tokenCleared s.services.cookie)).emit
      (.cookie (Cookie.expiry s.services.cookie)) := by
  simp [clearToken]

end Commutes

/-! ## Tasks -/

/-- Further tasks behind those that are left. -/
theorem concealed_append (r : Session × List Task) (rest : List Task) :
    concealed (r.1, r.2 ++ rest) =
      ((concealed r).1, (concealed r).2 ++ rest.map Task.conceal) := by
  rw [concealed, concealed, List.map_append]

/-- What comes to the same without the secrets has no more to conceal. -/
theorem concealed_of_comm {f : Session → Session × List Task}
    (hf : ∀ s : Session, concealed (f s) = f s.conceal) (s : Session) :
    concealed (f s.conceal) = concealed (f s) := by
  rw [hf, hf, conceal_conceal]

section Tasks

variable (s : Session)

/-- A page that is initialized. -/
theorem concealed_activate (p : Nat) : concealed (s.activate p) = s.conceal.activate p := by
  unfold activate
  rw [pages_conceal]
  split
  · rfl
  · split <;> simp [concealed, activateLogin, activateDashboard, Api.Call.conceal]

/-- A page that is displayed. -/
theorem concealed_display (p : Nat) (page : Page) :
    concealed (s.display p page) = s.conceal.display p page := by
  unfold display
  rw [concealed_activate, conceal_emit, conceal_giveContext, currentKind_conceal,
    ← conceal_log, ← conceal_leave]
  rfl

/-- A new page that is displayed next. -/
theorem concealed_displayNew (page : Page) :
    concealed (s.displayNew page) = s.conceal.displayNew page := rfl

/-- A request that is sent.

**Proof sketch.** The request of the concealed call is the concealed request, and its log line is
the same because it has no secrets. Whether there is a script decides who answers, and both branches
add the same effect up to what is concealed. -/
theorem concealed_send (purpose : Purpose) (call : Api.Call) :
    concealed (s.conceal.send purpose call.conceal) = concealed (s.send purpose call) := by
  have hrequest := s.services.client.conceal_request call
  have hevent : (s.services.client.request call.conceal).sentEvent =
      (s.services.client.request call).sentEvent := by
    rw [← Api.Request.sentEvent_conceal, hrequest, Api.Request.sentEvent_conceal]
  have hscript : ∀ e, (s.log e).script = s.script := fun _ => rfl
  have hscript' : ∀ e, (s.conceal.log e).script = s.script := fun _ => rfl
  unfold send
  dsimp only
  rw [services_conceal, hevent, hscript, hscript']
  split
  · simp [concealed, conceal, emit, log, Api.Wire.park, Effect.conceal_sent, hrequest,
      Effect.conceal_conceal, -Effect.conceal]
  · simp [concealed, conceal, emit, log, Effect.conceal_sent, hrequest, Effect.conceal_conceal,
      -Effect.conceal]

/-- A session token that is removed. -/
theorem conceal_clearToken_conceal : s.conceal.clearToken.conceal = s.clearToken.conceal := by
  rw [conceal_clearToken, conceal_clearToken, conceal_conceal, services_conceal]

/-- A reply to a login. -/
theorem concealed_settleLogin (r : Except Api.Error Unit) :
    concealed (s.settleLogin r) = s.conceal.settleLogin r := by
  unfold settleLogin
  split
  · rw [concealed_displayNew, conceal_log]
  · split <;> rw [concealed_displayNew, conceal_log]

/-- A reply to a refresh. -/
theorem concealed_settleRefresh (p : Nat) (r : Except Api.Error (List Certificate)) :
    concealed (s.conceal.settleRefresh p r) = concealed (s.settleRefresh p r) := by
  unfold settleRefresh
  split
  · simp [concealed]
  · split
    · rw [concealed_displayNew, concealed_displayNew, ← conceal_log, conceal_clearToken_conceal]
    · rw [concealed_displayNew, concealed_displayNew, ← conceal_log, conceal_conceal]

/-- A timer that is up. -/
theorem concealed_tick (n : Nat) : concealed (s.tick n) = s.conceal.tick n := by
  unfold tick
  rw [callbacks_conceal]
  split
  · rfl
  · split
    · rfl
    · dsimp only
      rw [apply_ite concealed]
      rfl

/-- A login form that is submitted. -/
theorem concealed_submit (p : Nat) : concealed (s.conceal.submit p) = concealed (s.submit p) := by
  unfold submit
  rw [active?_conceal]
  split
  · have hform : ({ s.conceal with form := s.form.conceal } : Session).conceal =
        ({ s with form := s.form.conceal } : Session).conceal :=
      congrArg (fun u : Session => { u with form := s.form.conceal }) s.conceal_conceal
    refine Prod.ext ?_ rfl
    simp only [concealed, conceal_log, conceal_emit]
    exact congrArg (fun u : Session => (u.emit .clearPassword).log .loginAttempt) hform
  · rw [concealed, conceal_conceal]
    rfl

/-- A handler that is called. -/
theorem concealed_handle (handler : Handler) :
    concealed (s.conceal.handle handler) = concealed (s.handle handler) := by
  cases handler with
  | submit p => exact concealed_submit s p
  | toggle p => simp [handle, concealed]
  | logout =>
    unfold handle
    dsimp only
    rw [concealed_displayNew, concealed_displayNew, ← conceal_log, conceal_clearToken_conceal]

/-- A reply, but for the one that the first page depends on.

**Proof sketch.** The warnings are the same since they have no secrets. A login and a refresh then
depend on whether the page answers, which concealing keeps, and on what follows
(`concealed_settleLogin`, `concealed_settleRefresh`). -/
theorem concealed_settle {purpose : Purpose} (hpurpose : purpose ≠ .firstPage)
    (request : Api.Request) (reply : Api.Reply) :
    concealed (s.conceal.settle purpose request.conceal reply) =
      concealed (s.settle purpose request reply) := by
  unfold settle
  rw [Api.Request.replyEvents_conceal, ← conceal_foldl_log]
  generalize (request.replyEvents reply).foldl (fun s e => s.log e) s = u
  cases purpose with
  | firstPage => exact absurd rfl hpurpose
  | login p =>
    dsimp only
    rw [active?_conceal]
    split
    · exact concealed_of_comm (fun u => u.concealed_settleLogin _) u
    · simp [concealed]
  | refresh p =>
    dsimp only
    rw [active?_conceal]
    split
    · exact concealed_settleRefresh _ p _
    · simp [concealed]

/-- Pages that a probe plans to display. -/
theorem concealed_follow (p : Nat) (isDisplayed : Bool) :
    concealed (s.perform (.follow p isDisplayed)) = s.conceal.perform (.follow p isDisplayed) := by
  refine Prod.ext rfl ?_
  cases isDisplayed with
  | true => exact (List.map_map ..).trans rfl
  | false => rfl

/-- A page that is displayed, if pages can be. -/
theorem concealed_perform_display (p : Nat) :
    concealed (s.perform (.display p)) = s.conceal.perform (.display p) := by
  unfold perform
  dsimp only
  rw [pages_conceal]
  split
  · rfl
  · rw [apply_ite concealed, concealed_display, concealed, conceal_log]
    rfl

end Tasks

/-- Whether the first page depends on a task: it settles the request that is sent for it. -/
def Task.ChoosesFirst : Task → Prop
  | .settle .firstPage _ _ => True
  | _ => False

/-- **One task without the secrets** comes to the same, unless the first page depends on it. -/
theorem concealed_perform (s : Session) {task : Task} (h : ¬ task.ChoosesFirst) :
    concealed (s.conceal.perform task.conceal) = concealed (s.perform task) := by
  cases task with
  | display p => exact concealed_of_comm (fun u => u.concealed_perform_display p) s
  | follow p isDisplayed => exact concealed_of_comm (fun u => u.concealed_follow p isDisplayed) s
  | send purpose call => exact s.concealed_send purpose call
  | settle purpose request reply =>
    refine s.concealed_settle ?_ request reply
    rintro rfl
    exact h trivial
  | tick n => exact concealed_of_comm (fun u => u.concealed_tick n) s
  | handle handler => exact s.concealed_handle handler
  | announce auth => simp [perform, concealed]

/-- The first page is chosen the same way without the secrets, as long as there is a session token
or there is none.

**Proof sketch.** The only use of the cookies is whether there is a token, which is the same by
hypothesis. An error is only reported; otherwise the logout is wired and the same page is displayed
(`concealed_displayNew`). -/
theorem concealed_settleFirst {s t : Session} (hst : s.conceal = t.conceal)
    (htoken : s.token.isSome = t.token.isSome) (r : Except Api.Error Api.AuthMethod) :
    concealed (s.settleFirst r) = concealed (t.settleFirst r) := by
  have hwired : ∀ (auth : Api.AuthMethod) (u : Session), (u.wireLogout auth).token = u.token := by
    intro auth u
    cases auth <;> rfl
  have halive : s.isAlive = t.isAlive := (congrArg isAlive hst :)
  unfold settleFirst
  cases r with
  | error e =>
    dsimp only
    rw [concealed, concealed, conceal_emit, conceal_emit, conceal_log, conceal_log, hst]
  | ok auth =>
    dsimp only
    rw [hwired, hwired, htoken, halive]
    split
    · rw [concealed_append, concealed_append, concealed_displayNew, concealed_displayNew,
        conceal_log, conceal_log, conceal_wireLogout, conceal_wireLogout, hst]
    · rw [concealed, concealed, conceal_log, conceal_log, hst]

/-- If one of two tasks that differ in secrets only chooses the first page, then both settle the
request for it by the same reply. -/
theorem Task.ChoosesFirst.exists_settle {a b : Task} (h : a.ChoosesFirst)
    (hab : a.conceal = b.conceal) : ∃ q r reply, a = .settle .firstPage q reply ∧
      b = .settle .firstPage r reply ∧ q.conceal = r.conceal := by
  cases a with
  | settle purpose q reply =>
    cases purpose with
    | firstPage =>
      cases b with
      | settle purpose' r reply' =>
        obtain ⟨rfl, hqr, rfl⟩ := Task.settle.inj hab
        exact ⟨q, r, reply, rfl, rfl, hqr⟩
      | _ => cases hab
    | _ => exact h.elim
  | _ => exact h.elim

/-- Replies that the first page depends on, to requests that differ in secrets only. -/
theorem concealed_settle_firstPage {s t : Session} (hst : s.conceal = t.conceal)
    (htoken : s.token.isSome = t.token.isSome) {q r : Api.Request} (hqr : q.conceal = r.conceal)
    (reply : Api.Reply) :
    concealed (s.settle .firstPage q reply) = concealed (t.settle .firstPage r reply) := by
  have hevents : q.replyEvents reply = r.replyEvents reply := by
    rw [← Api.Request.replyEvents_conceal, hqr, Api.Request.replyEvents_conceal]
  have hlogged : ∀ (events : List Log.Event) (u : Session),
      (events.foldl (fun s e => s.log e) u).token = u.token := by
    intro events u
    rw [foldl_log]
    rfl
  refine concealed_settleFirst ?_ ?_ _
  · rw [conceal_foldl_log, conceal_foldl_log, hevents, hst]
  · rw [hlogged, hlogged, htoken]

/-- **Two tasks that differ in secrets only**, in two sessions that do. -/
theorem concealed_perform_congr {s t : Session} {a b : Task} (hst : s.conceal = t.conceal)
    (hab : a.conceal = b.conceal) (htoken : a.ChoosesFirst → s.token.isSome = t.token.isSome) :
    concealed (s.perform a) = concealed (t.perform b) := by
  by_cases ha : a.ChoosesFirst
  · obtain ⟨q, r, reply, rfl, rfl, hqr⟩ := ha.exists_settle hab
    exact concealed_settle_firstPage hst (htoken ha) hqr reply
  · have hb : ¬ b.ChoosesFirst := by
      intro hb
      obtain ⟨_, _, _, _, rfl, _⟩ := hb.exists_settle hab.symm
      exact ha trivial
    rw [← concealed_perform s ha, ← concealed_perform t hb, hst, hab]

end Session

end CertDashboard
