import CertDashboard.Proofs.Session.Aside
import CertDashboard.Proofs.Session.Quiet

set_option autoImplicit false
set_option relaxedAutoImplicit false

/-!
# Why something is rendered, and why the client warns

Whatever is rendered is a login form that is opened, or an inventory; and the client warns of
nothing but replies. Both can be said of each task, and so of all that an action leads to, whatever
the session has been through.

## Main definitions

* `CertDashboard.Log.Event.ReportsFailure` — the log events with which the client warns.
* `CertDashboard.Session.Cause` — why a view is rendered into a region.
* `CertDashboard.Session.Yields` — what a change yields: warnings, and pages that are opened.
* `CertDashboard.Session.Does` — what is done, and what is left to do.
* `CertDashboard.Session.settled` — the requests that a run settles, with their replies.

## Main results

* `CertDashboard.Session.Yields.of_aside` — an aside yields nothing.
* `CertDashboard.Session.Yields.trans` — changes one after another yield what each of them yields.
* `CertDashboard.Session.does_perform` — what a task does.
* `CertDashboard.Session.exists_yields_run` — what a run yields.
* `CertDashboard.Session.yields_begin` — what the start of an action yields.

## Design

A page is opened when it is initialized. A task opens its own page at most, and a page that it
leaves to be opened was planned, or is none with an empty message: what the program makes itself
never is. Nothing is asked about the state, so replies that are there before their request and pages
that display others are covered.
-/

namespace CertDashboard

/-- The message of a page, if it is a login form. -/
def Page.message? (page : Page) : Option (Option String) :=
  match page.body with
  | .login message => some message
  | .dashboard _ | .probe _ _ _ => none

/-- The message of a page is part of what it is. -/
theorem Page.message?_face (page : Page) : page.face.message? = page.message? := by
  obtain ⟨body, hasContext, isActive⟩ := page
  cases body <;> rfl

/-! ## Warnings -/

/-- **Whether the client warns with an event**, by its stage and its action. -/
def Log.Event.ReportsFailure (event : Log.Event) : Prop :=
  event.fields.lookup "stage" = some (.text "client") ∧
    event.fields.lookup "action" = some (.text "request_failed")

/-- It can be decided whether the client warns with an event. -/
instance (event : Log.Event) : Decidable event.ReportsFailure :=
  inferInstanceAs (Decidable (_ ∧ _))

/-- **The client warns with one kind of event.** -/
theorem Log.Event.reportsFailure_iff (event : Log.Event) :
    event.ReportsFailure ↔ ∃ method path error, event = .requestFailed method path error := by
  unfold ReportsFailure
  cases event with
  | noContext kind => cases kind <;> simp [fields, line, List.lookup_cons]
  | _ => simp [fields, line, List.lookup_cons]

namespace Session

/-- The warning of the client that an effect logs, if it logs one. -/
def Effect.warning? : Effect → Option Log.Event
  | .log event => if event.ReportsFailure then some event else none
  | _ => none

/-- An aside warns of nothing. -/
theorem Effect.IsAside.warning?_eq {e : Effect} (h : e.IsAside) : e.warning? = none := by
  cases e with
  | log event =>
    refine if_neg fun hreports => ?_
    obtain ⟨method, path, error, rfl⟩ := event.reportsFailure_iff.mp hreports
    exact h.elim
  | _ => rfl

/-- **The warnings of the client**, in order. -/
def warnings (s : Session) : List Log.Event :=
  s.events.filter fun event => decide event.ReportsFailure

/-- The warnings behind further effects. -/
theorem warnings_of_trace {s t : Session} {es : List Effect} (h : t.trace = s.trace ++ es) :
    t.warnings = s.warnings ++ es.filterMap Effect.warning? := by
  have heq : ∀ u : Session, u.warnings = u.trace.filterMap Effect.warning? := by
    intro u
    rw [warnings, events, ← List.filterMap_eq_filter, List.filterMap_filterMap]
    congr 1
    funext e
    cases e <;> simp [Effect.warning?, Option.guard]
  rw [heq, heq, h, List.filterMap_append]

/-- What is logged about a reply are warnings. -/
theorem warnings_replyEvents (request : Api.Request) (reply : Api.Reply) :
    ((request.replyEvents reply).map Effect.log).filterMap Effect.warning? =
      request.replyEvents reply := by
  unfold Api.Request.replyEvents
  split
  · rfl
  · next failure _ =>
    have hwarns := (Log.Event.reportsFailure_iff (.requestFailed request.method request.url.path
      (.ofFailure failure))).mpr ⟨_, _, _, rfl⟩
    simp [Effect.warning?, hwarns]

/-! ## What a change yields -/

/-- The message of each page, if it is a login form. -/
def messages (s : Session) : List (Option (Option String)) :=
  s.pages.map Page.message?

/-- Whether a page is a login form with this message. -/
def IsForm (p : Nat) (message : Option String) (s : Session) : Prop :=
  s.messages[p]? = some (some message)

/-- **Why a view is rendered into a region**, by the pages that are opened. -/
inductive Cause (s : Session) (opened : List Nat) : Surface → View → Prop where
  /-- A login form is opened. -/
  | form {p : Nat} {message : Option String} : p ∈ opened → s.IsForm p message →
    Cause s opened .loginPanel (.login message)
  /-- An inventory is shown. -/
  | inventory (now : Int64) (horizon : Horizon) (certificates : List Certificate) :
    Cause s opened .certificatePanel (inventoryView now horizon certificates)

/-- **What a change yields**: warnings of the client, and pages that are opened. Whatever is
rendered has a cause; pages stay what they are, no form with an empty message is made, and nothing
is planned. -/
structure Yields (warnings : List Log.Event) (opened : List Nat) (s t : Session) : Prop where
  /-- The effects. -/
  trace : ∃ es, t.trace = s.trace ++ es ∧ es.filterMap Effect.warning? = warnings ∧
    ∀ surface view, .render surface view ∈ es → t.Cause opened surface view
  /-- Pages may have been made. -/
  messages : s.messages <+: t.messages
  /-- Forms with an empty message were there before. -/
  blank : ∀ p, t.IsForm p (some "") → s.IsForm p (some "")
  /-- Plans may have been dropped. -/
  plans : t.plans ⊆ s.plans

/-- A form stays one. -/
theorem IsForm.mono {s t : Session} (h : s.messages <+: t.messages) {p : Nat}
    {message : Option String} (hp : s.IsForm p message) : t.IsForm p message := by
  obtain ⟨hlt, -⟩ := List.getElem?_eq_some_iff.mp hp
  unfold IsForm
  rw [List.prefix_iff_getElem?.mp h p hlt, ← List.getElem?_eq_getElem hlt, hp]

/-- A cause stays one, whatever pages are opened besides. -/
theorem Cause.mono {s t : Session} {opened opened' : List Nat} {surface : Surface} {view : View}
    (hcause : s.Cause opened surface view) (h : s.messages <+: t.messages)
    (hopened : opened ⊆ opened') : t.Cause opened' surface view := by
  cases hcause with
  | form hp hform => exact .form (hopened hp) (hform.mono h)
  | inventory now horizon certificates => exact .inventory now horizon certificates

namespace Yields

variable {s t u : Session} {warnings warnings' : List Log.Event} {opened opened' : List Nat}

/-- A change without effects that leaves pages and plans alone yields nothing. -/
theorem of_trace (htrace : t.trace = s.trace) (hpages : t.pages = s.pages)
    (hplans : t.plans = s.plans) : Yields [] [] s t := by
  have hmessages : t.messages = s.messages := congrArg (List.map Page.message?) hpages
  exact ⟨⟨[], by simp [htrace], rfl, nofun⟩, hmessages ▸ List.prefix_rfl,
    fun p hp => by rwa [IsForm, hmessages] at hp, hplans ▸ List.Subset.refl _⟩

/-- **An aside yields nothing.** -/
theorem of_aside (h : Aside s t) : Yields [] [] s t := by
  obtain ⟨es, htrace, hes⟩ := h.trace
  have hmessages : t.messages = s.messages := by
    have hfaces : ∀ u : Session, u.backdrop.faces.map Page.message? = u.messages := fun u => by
      rw [backdrop, List.map_map, Session.messages]
      exact congrArg (u.pages.map ·) (funext Page.message?_face)
    rw [← hfaces s, ← hfaces t, h.backdrop]
  have hplans : t.plans = s.plans := congrArg Backdrop.plans h.backdrop
  exact ⟨⟨es, htrace, List.filterMap_eq_nil_iff.mpr fun e he => (hes e he).warning?_eq,
    fun surface view he => (hes _ he).elim⟩, hmessages ▸ List.prefix_rfl,
    fun p hp => by rwa [IsForm, hmessages] at hp, hplans ▸ List.Subset.refl _⟩

/-- No change yields nothing. -/
theorem refl (s : Session) : Yields [] [] s s :=
  of_trace rfl rfl rfl

/-- **Changes one after another** yield what each of them yields. -/
theorem trans (h : Yields warnings opened s t) (h' : Yields warnings' opened' t u) :
    Yields (warnings ++ warnings') (opened ++ opened') s u := by
  obtain ⟨es, htrace, rfl, hes⟩ := h.trace
  obtain ⟨es', htrace', rfl, hes'⟩ := h'.trace
  refine ⟨⟨es ++ es', ?_, List.filterMap_append, fun surface view he => ?_⟩,
    h.messages.trans h'.messages, fun p hp => h.blank p (h'.blank p hp),
    List.Subset.trans h'.plans h.plans⟩
  · rw [htrace', htrace, List.append_assoc]
  · rcases List.mem_append.mp he with he | he
    · exact (hes surface view he).mono h'.messages (List.subset_append_left _ _)
    · exact (hes' surface view he).mono List.prefix_rfl (List.subset_append_right _ _)

/-- More pages may be opened than there are effects of. -/
theorem mono (h : Yields warnings opened s t) (hopened : opened ⊆ opened') :
    Yields warnings opened' s t := by
  obtain ⟨es, htrace, hwarnings, hes⟩ := h.trace
  exact ⟨⟨es, htrace, hwarnings, fun surface view he =>
    (hes surface view he).mono List.prefix_rfl hopened⟩, h.messages, h.blank, h.plans⟩

/-- The warnings behind a change. -/
theorem warnings_eq (h : Yields warnings opened s t) : t.warnings = s.warnings ++ warnings := by
  obtain ⟨es, htrace, rfl, -⟩ := h.trace
  exact warnings_of_trace htrace

/-- An effect that neither renders nor warns yields nothing. -/
theorem emit {e : Effect} (hwarning : e.warning? = none)
    (hrender : ∀ surface view, e ≠ .render surface view) (s : Session) :
    Yields [] [] s (s.emit e) where
  trace := by
    refine ⟨[e], rfl, by simp [hwarning], fun surface view he => ?_⟩
    exact absurd (List.mem_singleton.mp he).symm (hrender surface view)
  messages := List.prefix_rfl
  blank _ := id
  plans := List.Subset.refl _

/-- What is rendered with a cause yields nothing else. -/
theorem render {surface : Surface} {view : View} (h : s.Cause opened surface view) :
    Yields [] opened s (s.emit (.render surface view)) where
  trace := by
    refine ⟨[.render surface view], rfl, rfl, fun surface' view' he => ?_⟩
    obtain ⟨rfl, rfl⟩ := Effect.render.inj (List.mem_singleton.mp he)
    exact h.mono List.prefix_rfl (List.Subset.refl _)
  messages := List.prefix_rfl
  blank _ := id
  plans := List.Subset.refl _

/-- Any other event that is logged yields nothing. -/
theorem log (event : Log.Event)
    (h : ∀ method path error, event ≠ .requestFailed method path error) (s : Session) :
    Yields [] [] s (s.log event) := by
  have hwarning : ¬ event.ReportsFailure := by
    rw [event.reportsFailure_iff]
    rintro ⟨method, path, error, heq⟩
    exact h method path error heq
  exact emit (e := .log event) (if_neg hwarning) nofun s

/-! ### Dashboards -/

/-- A dashboard that is rendered shows an inventory. -/
theorem renderDashboard (p : Nat) (s : Session) : Yields [] [] s (s.renderDashboard p) := by
  unfold Session.renderDashboard
  split
  · exact refl s
  · next d _ =>
    split
    · exact refl s
    · next certificates _ =>
      have hview : Cause s [] .certificatePanel (inventoryView s.now
          (d.horizon.getD s.services.tuning.horizon) certificates) := .inventory _ _ _
      exact (render hview).trans (emit (e := .visible .certificatePanel true) rfl nofun _)

/-- A horizon that is changed yields nothing but another view of the inventory. -/
theorem toggle (p : Nat) (s : Session) : Yields [] [] s (s.toggle p) := by
  unfold Session.toggle
  split
  · exact refl s
  · exact ((log (.horizonToggled _) nofun s).trans (of_aside (.modifyDashboard p _ _))).trans
      (renderDashboard p _)

/-! ### The life of a page -/

/-- The current page that leaves the screen yields nothing. -/
theorem leave (s : Session) : Yields [] [] s s.leave := by
  unfold Session.leave
  split
  · exact refl s
  · next p _ =>
    have hcurrent : Yields [] [] s { s with current := none } := of_trace rfl rfl rfl
    exact hcurrent.trans (of_aside (.teardown p _))

/-- **A page that is initialized is opened**: the form of it is rendered, if it is one.

**Proof sketch.** By the cases of `activate`. A form is rendered, and it is a form of the new
session with the message of before; a dashboard and every failure render nothing. -/
theorem activate (p : Nat) (s : Session) : Yields [] [p] s (s.activate p).1 := by
  have hactive := of_aside (.modifyPage p (f := fun page => { page with isActive := true })
    (fun _ => rfl) s)
  unfold Session.activate
  split
  · exact (refl s).mono (List.nil_subset _)
  · next page hpage =>
    split
    · next message hbody _ =>
      have hform : s.IsForm p message := by
        simp [IsForm, Session.messages, hpage, Page.message?, hbody]
      have hrender := hactive.trans (render (.form (List.mem_singleton_self p)
        (hform.mono hactive.messages)))
      exact (hrender.trans (of_aside (.bind _ _ _))).trans (emit (e := .visible _ _) rfl nofun _)
    · exact (((hactive.trans (of_aside (.modifyDashboard p _ _))).trans
        (of_aside (.bind _ _ _))).trans (emit (e := .visible _ _) rfl nofun _)).mono
          (List.nil_subset _)
    · exact (log (.noContext .login) nofun s).mono (List.nil_subset _)
    · exact (log (.noContext .dashboard) nofun s).mono (List.nil_subset _)
    · exact (emit (e := .journal _ _) rfl nofun s).mono (List.nil_subset _)

/-- A page that is made yields nothing, unless it is a form with an empty message.

**Proof sketch.** The page is put behind all others, so that the messages of before are a beginning
of the new ones. A form with an empty message was there before, since the page is none. -/
theorem addPage {page : Page} (hpage : page.message? ≠ some (some "")) (s : Session) :
    Yields [] [] s (s.addPage page).2 where
  trace := ⟨[], (List.append_nil _).symm, rfl, nofun⟩
  messages := by
    rw [Session.messages, Session.messages, Session.addPage, List.map_append]
    exact List.prefix_append _ _
  blank p hp := by
    have hlast : [page.message?][p - s.messages.length]? ≠ some (some (some "")) := by
      rcases p - s.messages.length with _ | n <;> simp [hpage]
    simp only [IsForm, Session.messages, Session.addPage, List.map_append, List.map_cons,
      List.map_nil, List.getElem?_append] at hp hlast ⊢
    split at hp
    · exact hp
    · exact absurd hp hlast
  plans := List.Subset.refl _

/-- **A reply yields the warnings about it.** -/
theorem replied (request : Api.Request) (reply : Api.Reply) (s : Session) :
    Yields (request.replyEvents reply) [] s
      ((request.replyEvents reply).foldl (fun s e => s.log e) s) := by
  rw [foldl_log]
  refine ⟨⟨_, rfl, warnings_replyEvents request reply, fun surface view he => ?_⟩,
    List.prefix_rfl, fun _ => id, List.Subset.refl _⟩
  obtain ⟨event, -, heq⟩ := List.mem_map.mp he
  exact Effect.noConfusion heq

end Yields

/-! ## Tasks -/

/-- **What is done, and what is left to do**: pages that are left to be opened were planned, or are
none with an empty message. -/
structure Does (warnings : List Log.Event) (opened : List Nat) (s : Session)
    (r : Session × List Task) : Prop where
  /-- What is done. -/
  yields : Yields warnings opened s r.1
  /-- What is left to do. -/
  leaves : ∀ p, .display p ∈ r.2 → (∃ plan ∈ s.plans, plan.2 = p) ∨ ¬ s.IsForm p (some "")

namespace Does

variable {s t : Session} {warnings warnings' : List Log.Event} {opened opened' : List Nat}

/-- A change that leaves no page to be opened. -/
theorem of_yields {r : Session × List Task} (h : Yields warnings opened s r.1)
    (htasks : ∀ p, .display p ∉ r.2) : Does warnings opened s r :=
  ⟨h, fun p hp => absurd hp (htasks p)⟩

/-- What is done first, and what is done then. -/
theorem after {r : Session × List Task} (h : Yields warnings opened s t)
    (h' : Does warnings' opened' t r) :
    Does (warnings ++ warnings') (opened ++ opened') s r where
  yields := h.trans h'.yields
  leaves p hp := by
    rcases h'.leaves p hp with ⟨plan, hplan, rfl⟩ | hother
    · exact .inl ⟨plan, h.plans hplan, rfl⟩
    · exact .inr fun hform => hother (hform.mono h.messages)

/-- A page that is initialized. -/
theorem activate (p : Nat) (s : Session) : Does [] [p] s (s.activate p) := by
  refine of_yields (.activate p s) fun q => ?_
  unfold Session.activate
  split
  · simp
  · split <;> simp

/-- **A page that is displayed is opened**, and no other page. -/
theorem display (p : Nat) (page : Page) (s : Session) : Does [] [p] s (s.display p page) := by
  have hcurrent : ∀ u : Session, Yields [] [] u { u with current := some p } :=
    fun _ => .of_trace rfl rfl rfl
  have hleft := (Yields.log (.displayed s.currentKind page.kind) nofun s).trans (.leave _)
  have hgiven := (hleft.trans (hcurrent _)).trans (.of_aside (.giveContext p _))
  exact after (hgiven.trans (.emit (e := .visible _ _) rfl nofun _)) (activate p _)

/-- **A page that the program makes** is left to be opened. -/
theorem displayNew {page : Page} (hpage : page.message? ≠ some (some "")) (s : Session) :
    Does [] [] s (s.displayNew page) where
  yields := .addPage hpage s
  leaves p hp := by
    obtain rfl : p = s.pages.length := by simpa [Session.displayNew, addPage] using hp
    exact .inr (by simp [IsForm, messages])

/-- The answer of the first request.

**Proof sketch.** An error is reported and yields nothing. Otherwise the first page is displayed,
which is no form with an empty message; or nobody is there to display it. -/
theorem settleFirst (r : Except Api.Error Api.AuthMethod) (s : Session) :
    Does [] [] s (s.settleFirst r) := by
  unfold Session.settleFirst
  split
  · exact of_yields ((Yields.log (.authQueryFailed _) nofun s).trans
      (.emit (e := .ready _) rfl nofun _)) (by simp)
  · next auth =>
    split
    · have hpage : ∀ hasToken, (firstPage auth hasToken).message? ≠ some (some "") := by
        intro hasToken
        unfold firstPage
        split <;> decide
      have hwired := (Yields.of_aside (.wireLogout auth s)).trans (.log (.firstPage auth
        (s.wireLogout auth).token.isSome (firstPage auth (s.wireLogout auth).token.isSome).kind)
          nofun _)
      have hmade := after hwired (displayNew (hpage (s.wireLogout auth).token.isSome) _)
      exact ⟨hmade.yields, fun p hp => hmade.leaves p (by simpa using hp)⟩
    · exact of_yields (.log .pagerDropped nofun s) (by simp)

/-- The reply to a login. -/
theorem settleLogin (r : Except Api.Error Unit) (s : Session) :
    Does [] [] s (s.settleLogin r) := by
  unfold Session.settleLogin
  split
  · exact after (.log .loginSuccess nofun s) (displayNew (by decide) _)
  · split
    · exact after (.log .loginRejected nofun s) (displayNew (by decide) _)
    · exact after (.log (.loginFailed _) nofun s) (displayNew (by decide) _)

/-- The reply to a refresh. -/
theorem settleRefresh (p : Nat) (r : Except Api.Error (List Certificate)) (s : Session) :
    Does [] [] s (s.settleRefresh p r) := by
  unfold Session.settleRefresh
  split
  · next certificates =>
    have hsnapshot := (Yields.log (.refreshed certificates.length) nofun s).trans
      (.of_aside (.modifyDashboard p (fun d => { d with snapshot := some certificates }) _))
    exact of_yields ((hsnapshot.trans (.renderDashboard p _)).trans (.of_aside (.schedule p _)))
      (by simp)
  · split
    · exact after ((Yields.log .sessionExpired nofun s).trans (.of_aside (.clearToken _)))
        (displayNew (by decide) _)
    · exact after (.log (.refreshFailed _) nofun s) (displayNew (by decide) _)

/-- **A request that is settled by its reply**: the client warns as the reply has it, and of nothing
else. -/
theorem settle (purpose : Purpose) (request : Api.Request) (reply : Api.Reply) (s : Session) :
    Does (request.replyEvents reply) [] s (s.settle purpose request reply) := by
  have hreplied := Yields.replied request reply s
  rw [← List.append_nil (request.replyEvents reply)]
  unfold Session.settle
  dsimp only
  split
  · exact after hreplied (settleFirst _ _)
  · split
    · exact after hreplied (settleLogin _ _)
    · exact after hreplied (of_yields (.log .staleLogin nofun _) (by simp))
  · split
    · exact after hreplied (settleRefresh _ _ _)
    · exact after hreplied (of_yields (.log .staleRefresh nofun _) (by simp))

/-- A request that is sent. -/
theorem send (purpose : Purpose) (call : Api.Call) (s : Session) :
    Does [] [] s (s.send purpose call) := by
  have hsent : ∀ waits, Yields [] [] s ((s.log (s.services.client.request call).sentEvent).emit
      (.sent (s.services.client.request call) waits)) :=
    fun waits => (Yields.log (Api.Request.sentEvent _) nofun s).trans
      (.emit (e := .sent _ waits) rfl nofun _)
  unfold Session.send
  dsimp only
  split
  · exact of_yields ((hsent true).trans (.of_trace rfl rfl rfl)) (by simp)
  · exact of_yields ((hsent false).trans (.of_trace rfl rfl rfl)) (by simp)

/-- A timer that is up.

**Proof sketch.** A callback that was spent does nothing. Otherwise it is marked and the dashboard
loses its timer, and at most a request is left to be sent. -/
theorem tick (n : Nat) (s : Session) : Does [] [] s (s.tick n) := by
  unfold Session.tick
  split
  · exact of_yields (.refl s) (by simp)
  · split
    · exact of_yields (.refl s) (by simp)
    · next callback _ _ =>
      have hspent : Yields [] [] s
          { s with callbacks := s.callbacks.modify n fun c => { c with isSpent := true } } :=
        .of_trace rfl rfl rfl
      have htimer := hspent.trans
        (.of_aside (.modifyDashboard callback.page (fun d => { d with timer := none }) _))
      dsimp only
      split
      · exact of_yields htimer (by simp)
      · exact of_yields htimer (by simp)

/-- A handler that is called. -/
theorem handle (handler : Handler) (s : Session) : Does [] [] s (s.handle handler) := by
  cases handler with
  | submit p =>
    simp only [Session.handle, submit]
    split
    · have hform : Yields [] [] s { s with form := { s.form with password := "" } } :=
        .of_trace rfl rfl rfl
      exact of_yields ((hform.trans (.emit (e := .clearPassword) rfl nofun _)).trans
        (.log .loginAttempt nofun _)) (by simp)
    · exact of_yields (.refl s) (by simp)
  | toggle p => exact of_yields (.toggle p s) fun _ => List.not_mem_nil
  | logout =>
    exact after ((Yields.log .logout nofun s).trans (.of_aside (.clearToken _)))
      (displayNew (by decide) _)

end Does

/-- The page that a task opens, if it opens one. -/
def Task.page? : Task → Option Nat
  | .display p => some p
  | _ => none

/-- The request that a task settles with its reply, if it settles one. -/
def Task.settled? : Task → Option (Api.Request × Api.Reply)
  | .settle _ request reply => some (request, reply)
  | _ => none

/-- The warnings about replies that settle requests. -/
def warningsAbout (replies : List (Api.Request × Api.Reply)) : List Log.Event :=
  replies.flatMap fun r => r.1.replyEvents r.2

/-- **What a task does**: it opens its own page, and the client warns as the reply has it that
settles a request.

**Proof sketch.** By the kinds of tasks, each of which has its lemma. A display opens its page, and
what follows a display leaves the planned pages to be opened. -/
theorem does_perform (task : Task) (s : Session) :
    Does (warningsAbout task.settled?.toList) task.page?.toList s (s.perform task) := by
  cases task with
  | display p =>
    simp only [perform]
    split
    · exact .of_yields ((Yields.refl s).mono (List.nil_subset _)) (by simp)
    · next page hpage =>
      split
      · exact .display p page s
      · exact .of_yields ((Yields.log (.displayDropped page.kind) (by simp) s).mono
          (List.nil_subset _)) (by simp)
  | follow p isDisplayed =>
    refine ⟨⟨⟨[], (List.append_nil _).symm, rfl, by simp⟩, List.prefix_rfl, fun _ => id,
      List.filter_sublist.subset⟩, fun q hq => .inl ?_⟩
    cases isDisplayed with
    | false => exact absurd hq (by simp [perform])
    | true =>
      obtain ⟨plan, hplan, rfl⟩ : ∃ plan ∈ s.plans.filter fun plan => plan.1 == p, plan.2 = q := by
        simpa [perform, plansOf] using hq
      exact ⟨plan, (List.mem_filter.mp hplan).1, rfl⟩
  | send purpose call => exact .send purpose call s
  | settle purpose request reply =>
    have hsettle := Does.settle purpose request reply s
    rwa [← List.append_nil (request.replyEvents reply)] at hsettle
  | tick n => exact .tick n s
  | handle handler => exact .handle handler s
  | announce auth =>
    exact .of_yields (.emit (e := .ready _) rfl (by simp) s) fun _ => List.not_mem_nil

/-! ## Runs -/

/-- **The requests that a run settles**, with their replies, in order. -/
def settled (tasks : List Task) (s : Session) : List (Api.Request × Api.Reply) :=
  match tasks with
  | [] => []
  | t :: rest => t.settled?.toList ++ settled ((s.perform t).2 ++ rest) (s.perform t).1
  termination_by s.reserve + effort tasks
  decreasing_by
    have h := effort_perform_lt t s
    simp only [remaining] at h
    rw [effort_append, effort]
    omega

/-- No tasks, no requests. -/
@[simp] theorem settled_nil (s : Session) : s.settled [] = [] := by
  rw [settled]

/-- What the first task settles comes before what the others settle. -/
theorem settled_cons (t : Task) (rest : List Task) (s : Session) : s.settled (t :: rest) =
    t.settled?.toList ++ (s.perform t).1.settled ((s.perform t).2 ++ rest) := by
  rw [settled]

/-- **What a run yields**: the warnings about the replies that it settles requests by, and pages
that were due to be displayed, that were planned, or that are none with an empty message.

**Proof sketch.** By the recursion of `run`. What a later task opens was due, planned, or no empty
form then. It was due before, or it was left by the first task (`does_perform`), for which the same
three ways are open. -/
theorem exists_yields_run (tasks : List Task) (s : Session) : ∃ opened,
    Yields (warningsAbout (s.settled tasks)) opened s (s.run tasks) ∧ ∀ p ∈ opened,
      .display p ∈ tasks ∨ (∃ plan ∈ s.plans, plan.2 = p) ∨ ¬ s.IsForm p (some "") := by
  -- The first task is done, and the run goes on from there: what it opens was due before, or is
  -- what the first task leaves to be opened.
  induction tasks, s using run.induct with
  | case1 s =>
    rw [run_nil, settled_nil]
    exact ⟨[], .refl s, nofun⟩
  | case2 s task rest ih =>
    obtain ⟨opened, hrun, hopened⟩ := ih
    have hdoes := does_perform task s
    rw [run_cons, settled_cons, warningsAbout, List.flatMap_append]
    refine ⟨task.page?.toList ++ opened, hdoes.yields.trans hrun, fun p hp => ?_⟩
    rcases List.mem_append.mp hp with hp | hp
    · obtain rfl : task = .display p := by
        cases task <;> simp_all [Task.page?]
      exact .inl List.mem_cons_self
    · rcases hopened p hp with hdue | ⟨plan, hplan, rfl⟩ | hother
      · rcases List.mem_append.mp hdue with hleft | hdue
        · exact .inr (hdoes.leaves p hleft)
        · exact .inl (List.mem_cons_of_mem task hdue)
      · exact .inr (.inl ⟨plan, hdoes.yields.plans hplan, rfl⟩)
      · exact .inr (.inr fun hform => hother (hform.mono hdoes.yields.messages))

/-! ## Actions -/

/-- The page that an action has opened, if it is one that is kept. -/
def Action.opened? (s : Session) : Action → Option Nat
  | .display place | .activate place => s.heldAt place
  | _ => none

/-- What a page is that an action makes, and the pages that it plans to display. -/
def Action.made? : Action → Option (PageBody × List Nat)
  | .keep body plans | .present body plans => some (body, plans)
  | _ => none

/-- **What the start of an action yields**, and which pages are due then to be displayed. The page
that is made, if one is, is no form with an empty message and plans nothing.

**Proof sketch.** By the kinds of actions. A page that is made is no empty form, which is what the
hypothesis is for (`Yields.addPage`). The actions on a held page do what the page does, or nothing
if there is none; all others change nothing that is rendered. -/
theorem yields_begin (action : Action) (s : Session)
    (hmade : ∀ body plans, action.made? = some (body, plans) →
      body ≠ .login (some "") ∧ plans = []) :
    Yields [] (action.opened? s).toList s (s.begin action).1 ∧
      ∀ p, .display p ∈ (s.begin action).2 →
        p ∈ action.opened? s ∨ (∃ plan ∈ s.plans, plan.2 = p) ∨ ¬ s.IsForm p (some "") := by
  have hmake : ∀ {body : PageBody} {plans : List Nat}, action.made? = some (body, plans) →
      Yields [] [] s (s.make body plans).2 := by
    intro body plans heq
    obtain ⟨hbody, rfl⟩ := hmade body plans heq
    have hpage : (Page.fresh body).message? ≠ some (some "") := by
      cases body <;> simp_all [Page.message?, Page.fresh]
    exact (Yields.addPage hpage s).trans (.of_trace rfl rfl (List.append_nil _))
  cases action with
  | keep body plans => exact ⟨(hmake rfl).trans (.of_trace rfl rfl rfl), by simp [begin]⟩
  | present body plans =>
    refine ⟨hmake rfl, fun p hp => .inr (.inr ?_)⟩
    obtain rfl : p = s.pages.length := by simpa [begin, make, addPage] using hp
    simp [IsForm, messages]
  | display place =>
    refine ⟨(Yields.refl s).mono (List.nil_subset _), fun p hp => .inl ?_⟩
    simpa [begin, Action.opened?] using hp
  | activate place =>
    simp only [begin, Action.opened?]
    cases s.heldAt place with
    | none => exact ⟨.refl s, by simp⟩
    | some p =>
      have hdoes := Does.activate p s
      exact ⟨hdoes.yields, fun q hq => .inr (hdoes.leaves q hq)⟩
  | teardown place =>
    simp only [begin, Action.opened?]
    cases s.heldAt place with
    | none => exact ⟨.refl s, by simp⟩
    | some p => exact ⟨.of_aside (.teardown p s), by simp⟩
  | giveContext place =>
    simp only [begin, Action.opened?]
    cases s.heldAt place with
    | none => exact ⟨.refl s, by simp⟩
    | some p => exact ⟨.of_aside (.giveContext p s), by simp⟩
  | reply reply =>
    simp only [begin, Action.opened?]
    split
    · exact ⟨.refl s, by simp⟩
    · exact ⟨.of_trace rfl rfl rfl, by simp⟩
  | _ => exact ⟨.of_trace rfl rfl rfl, by simp [begin]⟩

end Session

end CertDashboard
