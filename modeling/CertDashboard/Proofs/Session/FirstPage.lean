import CertDashboard.Proofs.Api.Exchange
import CertDashboard.Proofs.Cookie.Grammar
import CertDashboard.Proofs.Session.Logout
import CertDashboard.Proofs.Session.Ready

set_option autoImplicit false
set_option relaxedAutoImplicit false

/-!
# The first page

The answer to the first question, and the session token that is there when it comes, decide with
which page a program begins and whether its users can log out. An answer that cannot be read leaves
nothing behind but a report, and one that comes when pages can be displayed no longer not even that.

## Main definitions

* `CertDashboard.Session.Begun` — a session behind the reply to its first question.
* `CertDashboard.Session.asked` — the session right before that.
* `CertDashboard.Session.Prepared` — a session that displays its first page next.
* `CertDashboard.Session.outward` — the effects that are more than a line in the log.
* `CertDashboard.Session.Dropped` — a session in which pages can be displayed no longer.

## Main results

* `CertDashboard.Session.Begun.exists_asked` — there is one way to begin, whenever the reply comes.
* `CertDashboard.Session.Prepared.login`, `CertDashboard.Session.Prepared.dashboard` — the two pages
  that a program may begin with.
* `CertDashboard.Session.Begun.reports_eq` — a session that has begun has reported the answer, once.
* `CertDashboard.Session.Dropped.applyAll` — nothing is displayed once pages can be displayed no
  longer.
* `CertDashboard.Session.reply_decides_first_page` — what each reply comes to.

## Design

Until the reply comes nothing is bound and nothing is due, so all that can change is what is typed,
the clock and the cookies. What is proved about the answer is proved about the record that holds
just these, and so it is the same whether the reply was there before its question or comes much
later.
-/

namespace CertDashboard

/-- The backend names the method with a password if and only if it does so by its very name. -/
theorem Api.AuthMethod.ofName_eq_userpass_iff (given : Option String) :
    AuthMethod.ofName given = .userpass ↔ given = some "Userpass" := by
  have hname : AuthMethod.userpass.name = "Userpass" := rfl
  rw [AuthMethod.ofName, hname]
  split
  · next hgiven => simpa using hgiven
  · next hgiven => simpa using hgiven

/-- **A reply from which cannot be read how users prove who they are is an error**, with the status
of a response that is no success, and with zero otherwise. -/
theorem Api.exists_error_of_not_names {reply : Reply} (h : ∀ given, ¬ reply.Names given) :
    ∃ e, authMethodOf reply = .error e ∧ e.status = reply.errorStatus := by
  rcases hauth : authMethodOf reply with e | auth
  · have hresult : (Call.authMethod.result reply).error? = some e := by
      rw [Call.result, hauth]
      rfl
    exact ⟨e, rfl, status_of_error?_result hresult⟩
  · obtain ⟨given, hnames, -⟩ := (authMethodOf_eq_ok_iff reply auth).mp hauth
    exact absurd hnames (h given)

/-- **There is no session token** if and only if the first pair of its name is missing, or has an
empty value. -/
theorem Cookie.isSome_token_eq_false_iff (cookies name : String) :
    (Cookie.token cookies name).isSome = false ↔
      Cookie.valueOf name.toList (Cookie.pairs cookies.toList) = none ∨
        Cookie.valueOf name.toList (Cookie.pairs cookies.toList) = some [] := by
  rw [← Bool.not_eq_true, Cookie.isSome_token_iff, Cookie.lookup_eq_valueOf_pairs]
  rcases Cookie.valueOf name.toList (Cookie.pairs cookies.toList) with _ | value
  · simp
  · simp

namespace Session

/-! ## Before the answer -/

/-- **A session behind the reply to its first question**, and the cookies that were there when it
came. The reply comes first among all replies, and nobody displayed a page from outside before it;
or it was there already when the question was asked. -/
inductive Begun (services : Services) (reply : Api.Reply) : String → Session → Prop where
  /-- The reply comes later. -/
  | later (now : Int64) (cookies : String) {before : List Action} {s : Session} :
    (∀ action ∈ before, action.IsUnprompted ∧ ∀ early, action ≠ .reply early) →
      (start services now cookies []).bootstrap.applyAll before = s →
        Begun services reply s.jar.raw (s.apply (.reply reply))
  /-- The reply was there already. -/
  | atOnce (now : Int64) (cookies : String) :
    Begun services reply cookies (start services now cookies [reply]).bootstrap

/-- **A session whose first question is just answered**: nothing happened but that it was asked. -/
def asked (services : Services) (now : Int64) (cookies : String) (form : Api.Credentials)
    (waits : Bool) : Session := { start services now cookies [] with
  form := form
  wire := ⟨[], if waits then [services.client.request .authMethod] else []⟩
  trace := [.log (.started version), .log (services.client.request .authMethod).sentEvent,
    .sent (services.client.request .authMethod) waits] }

/-- **Until the reply comes nothing changes** but what is typed, the clock and the cookies, in a
session without gestures and timers.

**Proof sketch.** Induction on the actions. A gesture has no handler and no timer is up, so one
action changes the form, the clock or the jar at most, and what it leaves has no gestures and timers
either. -/
theorem applyAll_of_idle {s : Session} (hbindings : ∀ g, s.bindings g = none)
    (htimers : s.timers = []) {actions : List Action}
    (h : ∀ action ∈ actions, action.IsUnprompted ∧ ∀ reply, action ≠ .reply reply) :
    ∃ form now jar, s.applyAll actions =
      { s with form := form, now := now, jar := jar } := by
  induction actions generalizing s with
  | nil => exact ⟨s.form, s.now, s.jar, rfl⟩
  | cons action actions ih =>
    obtain ⟨⟨haction, hreply⟩, hrest⟩ := List.forall_mem_cons.mp h
    have hstep : ∃ form now jar,
        s.apply action = { s with form := form, now := now, jar := jar } := by
      cases action with
      | type credentials => exact ⟨credentials, s.now, s.jar, by simp [apply, begin]⟩
      | gesture g => exact ⟨s.form, s.now, s.jar, by simp [apply, begin, hbindings g]⟩
      | reply reply => exact absurd rfl (hreply reply)
      | elapse => exact ⟨s.form, s.now, s.jar, by simp [apply, begin, htimers]⟩
      | setClock now => exact ⟨s.form, now, s.jar, by simp [apply, begin]⟩
      | setCookies cookies => exact ⟨s.form, s.now, ⟨cookies⟩, by simp [apply, begin]⟩
      | _ => exact haction.elim
    obtain ⟨form, now, jar, hstep⟩ := hstep
    rw [applyAll_cons, hstep]
    exact ih hbindings htimers hrest

/-- **There is one way to begin**, whether the reply comes later or was there already.

**Proof sketch.** When the reply comes later, nothing but the form, the clock and the cookies
changed before (`applyAll_of_idle`), so that the question is still all that waits. When it was there
already, the question is settled in the run of the bootstrap itself. Either way the reply is settled
in the session that has just asked. -/
theorem Begun.exists_asked {services : Services} {reply : Api.Reply} {cookies : String}
    {t : Session} (h : Begun services reply cookies t) : ∃ now form waits,
      t = finish (((asked services now cookies form waits).answered []
        (services.client.request .authMethod) reply).settleFirst (Api.authMethodOf reply)) := by
  cases h with
  | @later now cookies before s hbefore hs =>
    have hfirst := bootstrap_start services now cookies
    obtain ⟨form, now', jar, heq⟩ := applyAll_of_idle
      (s := (start services now cookies []).bootstrap) (fun _ => by rw [hfirst]; rfl)
      (by rw [hfirst]; rfl) hbefore
    have hwaiting : s.wire.waiting = [(services.client.request .authMethod, .firstPage)] := by
      rw [← hs, heq, hfirst]
      rfl
    refine ⟨now', form, true, ?_⟩
    rw [apply_reply_first hwaiting, ← hs, heq, hfirst]
    rfl
  | atOnce now cookies =>
    have hsend : ((start services now cookies [reply]).log (.started version)).send .firstPage
        .authMethod = (asked services now cookies ⟨"", ""⟩ false,
          [.settle .firstPage (services.client.request .authMethod) reply]) := rfl
    refine ⟨now, ⟨"", ""⟩, false, ?_⟩
    simp only [bootstrap, run_cons, perform, hsend, settle, foldl_log, List.append_nil]
    rfl

/-! ## The page -/

/-- **A session that displays its first page next.** Nothing happened but that its question was
answered, and that logging out was made possible, or not. -/
structure Prepared (services : Services) (auth : Api.AuthMethod) (s : Session) : Prop where
  /-- It is sound. -/
  sound : s.Sound
  /-- No page was made. -/
  pages : s.pages = []
  /-- No request waits. -/
  waiting : s.wire.waiting = []
  /-- Nothing was asked but the first question. -/
  requests : s.requests = [services.client.request .authMethod]
  /-- Pages are built from what they were built from at the start. -/
  services : s.services = services
  /-- Logging out is bound if users prove who they are. -/
  logout : s.bindings .logout = if auth = .userpass then some .logout else none
  /-- It is available then, and only then. -/
  available : s.isLogoutAvailable = some (decide (auth = .userpass))

/-- An answer that can be read makes the session display its first page.

**Proof sketch.** Asking and answering are a quiet and a calm change of a session that begins sound.
Settling an answer then displays the first page (`finish_settleFirst`), behind the wiring of the
logout, which fixes the fields of `Prepared`. -/
theorem exists_prepared (services : Services) (now : Int64) (cookies : String)
    (form : Api.Credentials) (waits : Bool) (reply : Api.Reply) (auth : Api.AuthMethod) :
    ∃ s, Prepared services auth s ∧
      finish (((asked services now cookies form waits).answered []
        (services.client.request .authMethod) reply).settleFirst (.ok auth)) =
      (s.opening (firstPage auth (Cookie.token cookies services.cookie).isSome)).emit
        (.ready (.ok auth)) := by
  have hasked : Quiet (start services now cookies []) (asked services now cookies form waits) :=
    ⟨rfl, ⟨[], by simp [asked], by simp⟩, List.nil_suffix, .inl rfl⟩
  have hcalm : Calm (asked services now cookies form waits) ((asked services now cookies form
      waits).answered [] (services.client.request .authMethod) reply) :=
    .answered List.nil_suffix _ reply
  have hsound := ((Begins.blank services now cookies).sound.quiet hasked).quiet hcalm.quiet
  obtain ⟨event, heq⟩ := hsound.finish_settleFirst auth
  have hwired := (Calm.wireLogout auth ((asked services now cookies form waits).answered []
    (services.client.request .authMethod) reply)).trans (.log event _)
  refine ⟨_, ⟨hsound.quiet hwired.quiet, ?_, ?_, ?_, ?_, ?_, ?_⟩, heq⟩
  · cases auth <;> rfl
  · cases auth <;> rfl
  · rw [(hcalm.trans hwired).adds.requests_eq, List.append_nil]
    rfl
  · cases auth <;> rfl
  · cases auth <;> rfl
  · obtain ⟨es, htrace, -, havailable⟩ := trace_wireLogout auth ((asked services now cookies form
      waits).answered [] (services.client.request .authMethod) reply)
    rw [(Neutral.log event _).isLogoutAvailable_eq, isLogoutAvailable_of_trace htrace, havailable,
      Option.some_or]

namespace Prepared

variable {services : Services} {auth : Api.AuthMethod} {s : Session}

/-- The first page is the first one that is made, and what there is behind it is sound.

**Proof sketch.** There is no page before, so the new one has number zero. Displaying it keeps the
invariant (`Sound.showing`), and the report is a quiet change. -/
theorem opens (hs : Prepared services auth s) {page : Page} (hpage : page.IsFresh)
    (outcome : Except Api.Error Api.AuthMethod) :
    ((s.opening page).emit (.ready outcome)).Sound ∧
      ((s.opening page).emit (.ready outcome)).current = some 0 ∧
      ((s.opening page).emit (.ready outcome)).kindOf 0 = some page.kind := by
  obtain ⟨body, hbody, rfl⟩ := hpage
  have hget : (s.addPage (.fresh body)).2.pages[s.pages.length]? = some (.fresh body) := by
    simp [addPage]
  have hsound := (hs.sound.quiet (.addPage hbody s)).showing hget
  have hlength : s.pages.length = 0 := by simp [hs.pages]
  have hready : Quiet (s.opening (.fresh body)) ((s.opening (.fresh body)).emit (.ready outcome)) :=
    .emit ⟨fun _ => rfl, rfl⟩ _
  refine ⟨hsound.quiet hready, congrArg some hlength, hready.kindOf ?_⟩
  rw [opening, hlength, kindOf_showing, ← hlength, kindOf, hget]
  rfl

/-- The first page does nothing about logging out. -/
theorem logout_opens (hs : Prepared services auth s) (page : Page)
    (outcome : Except Api.Error Api.AuthMethod) :
    ((s.opening page).emit (.ready outcome)).bindings .logout =
        (if auth = .userpass then some .logout else none) ∧
      ((s.opening page).emit (.ready outcome)).isLogoutAvailable =
        some (decide (auth = .userpass)) := by
  have hneutral : Neutral s ((s.opening page).emit (.ready outcome)) :=
    (Neutral.opening page s).trans (.emit ⟨rfl, rfl⟩ _)
  exact ⟨hneutral.logout.trans hs.logout, hneutral.isLogoutAvailable_eq.trans hs.available⟩

/-- The first page asks for the inventory if it is a dashboard, and for nothing otherwise. -/
theorem asks (hs : Prepared services auth s) {page : Page} (hpage : page.IsFresh)
    (outcome : Except Api.Error Api.AuthMethod) :
    ((s.opening page).emit (.ready outcome)).requests =
      services.client.request .authMethod ::
        (if page.kind = .dashboard then [services.client.request .inventory] else []) := by
  have hmade := (Calm.addPage hpage s).adds
  have hown : page.body.IsOwn := hpage.spec.1
  have hshown := (hmade.trans (.showing hown s.pages.length _)).trans (.emit (.ready outcome) _)
  have hservices : (s.addPage page).2.services = services := hs.services
  rw [opening, hshown.requests_eq, hs.requests, hservices]
  simp [Effect.request?]

/-- **A login form as the first page**: it has no message, and nothing is asked.

**Proof sketch.** The form that is opened is on the screen (`showsLogin_opening`), and the report
renders nothing. A form asks for nothing, and nothing waited before. -/
theorem login (hs : Prepared services auth s) (outcome : Except Api.Error Api.AuthMethod) :
    let t := (s.opening (.login none)).emit (.ready outcome)
    ShowsLogin 0 none t ∧ t.requests = [services.client.request .authMethod] ∧
      t.wire.waiting = [] := by
  intro t
  obtain ⟨hsound, hcurrent, hkind⟩ := hs.opens (isFresh_login none) outcome
  have hshows := hs.sound.showsLogin_opening none
  rw [hs.pages] at hshows
  refine ⟨⟨hsound.loginScreen hcurrent hkind, hshows.body, ?_⟩, ?_, ?_⟩
  · have hrenders : t.renders .loginPanel = (s.opening (.login none)).renders .loginPanel := by
      simp [t, renders, emit]
    rw [hrenders]
    exact hshows.view
  · exact hs.asks (isFresh_login none) outcome
  · exact hs.waiting

/-- **A dashboard as the first page**: it asks for the inventory, and nothing else is asked. -/
theorem dashboard (hs : Prepared services auth s) (outcome : Except Api.Error Api.AuthMethod) :
    let t := (s.opening .dashboard).emit (.ready outcome)
    DashboardScreen 0 t ∧
      t.requests = [services.client.request .authMethod, services.client.request .inventory] ∧
      t.wire.waiting = [(services.client.request .inventory, .refresh 0)] := by
  intro t
  obtain ⟨hsound, hcurrent, hkind⟩ := hs.opens isFresh_dashboard outcome
  refine ⟨hsound.dashboardScreen hcurrent hkind, hs.asks isFresh_dashboard outcome, ?_⟩
  have hwaiting : t.wire.waiting =
      s.wire.waiting ++ [(s.services.client.request .inventory, .refresh s.pages.length)] := rfl
  rw [hwaiting, hs.waiting, hs.services, hs.pages]
  rfl

end Prepared

/-! ## Answers that cannot be read -/

/-- **What a session does to its surroundings**: all effects that are more than a line in the
log. -/
def outward (s : Session) : List Effect :=
  s.trace.filter fun e =>
    match e with
    | .log _ => false
    | _ => true

/-- **An answer that cannot be read leaves nothing behind** but the report that it failed.

**Proof sketch.** The whole trace of the session is known: the start, the question, the warnings of
the reply, the log line of the failure, and the report. Each part is read off from it. -/
theorem failed_asked (services : Services) (now : Int64) (cookies : String) (form : Api.Credentials)
    (waits : Bool) (reply : Api.Reply) (e : Api.Error) :
    let request := services.client.request .authMethod
    let t := finish (((asked services now cookies form waits).answered [] request reply).settleFirst
      (.error e))
    t.outward = [.sent request waits, .ready (.error e)] ∧ Bare t ∧ t.isLogoutAvailable = none ∧
      t.wire.waiting = [] := by
  intro request t
  have ht : t = { (asked services now cookies form waits).answered [] request reply with
      trace := [.log (.started version), .log request.sentEvent, .sent request waits] ++
        (request.replyEvents reply ++ [Log.Event.authQueryFailed e]).map .log ++
          [.ready (.error e)] } := by
    simp [t, settleFirst, finish, log, emit, answered, asked, request]
  rw [ht]
  refine ⟨?_, ⟨rfl, rfl, ?_, fun _ => rfl, rfl⟩, ?_, rfl⟩
  · simp [outward, List.filter_map, Function.comp_def]
  · simp [renderCount, List.countP_map, Function.comp_def]
  · simp [isLogoutAvailable]

/-! ## What is reported -/

/-- **A session that has begun has reported once**, and what it reported is the answer. -/
theorem Begun.reports_eq {services : Services} {reply : Api.Reply} {cookies : String} {t : Session}
    (h : Begun services reply cookies t) :
    t.Decided ∧ t.reports = [Api.authMethodOf reply] := by
  obtain ⟨now, form, waits, rfl⟩ := h.exists_asked
  have hdecided : ((asked services now cookies form waits).answered []
      (services.client.request .authMethod) reply).Decided := List.forall_mem_nil _
  obtain ⟨hafter, hreports⟩ := hdecided.settleFirst (Api.authMethodOf reply)
  refine ⟨hafter, ?_⟩
  rw [hreports, reports_answered]
  cases Api.authMethodOf reply <;> rfl

/-! ## When pages can be displayed no longer -/

/-- **Pages can be displayed no longer**, and none is current. -/
structure Dropped (s : Session) : Prop where
  /-- No page can be displayed. -/
  isAlive : s.isAlive = false
  /-- No page is current. -/
  current : s.current = none

/-- A change that displays no page adds no display. -/
theorem Stays.displays_eq {s t : Session} (h : Stays s t) : t.displays = s.displays := by
  obtain ⟨es, htrace, -, hnone⟩ := h.trace
  rw [Session.displays_eq, Session.displays_eq, htrace, List.filterMap_append, hnone,
    List.append_nil]

/-- Tasks display no page when pages can be displayed no longer. -/
theorem stays_run {s : Session} (h : s.isAlive = false) (tasks : List Task) :
    Stays s (s.run tasks) := by
  induction tasks, s using run.induct with
  | case1 s =>
    rw [run_nil]
    exact .refl s
  | case2 s task rest ih =>
    have hstays : Stays s (s.perform task).1 :=
      stays_perform fun halive => absurd (h.symm.trans halive) (by simp)
    rw [run_cons]
    exact hstays.trans (ih (hstays.isAlive.trans h))

namespace Dropped

variable {s : Session}

/-- No action displays a page when pages can be displayed no longer, nor makes it possible again. -/
theorem apply (hs : s.Dropped) (action : Action) :
    (s.apply action).Dropped ∧ (s.apply action).displays = s.displays := by
  by_cases hclose : action = .close
  · subst hclose
    simp only [Session.apply, begin, run_nil]
    exact ⟨⟨rfl, rfl⟩, rfl⟩
  · have hbegin := stays_begin hclose s
    have hstays : Stays s (s.apply action) :=
      hbegin.trans (stays_run (hbegin.isAlive.trans hs.isAlive) _)
    exact ⟨⟨hstays.isAlive.trans hs.isAlive, hstays.current.trans hs.current⟩, hstays.displays_eq⟩

/-- **Nothing is displayed once pages can be displayed no longer**, whatever is done. -/
theorem applyAll (hs : s.Dropped) (actions : List Action) :
    (s.applyAll actions).Dropped ∧
      (s.applyAll actions).displays = s.displays := by
  induction actions generalizing s with
  | nil => exact ⟨hs, rfl⟩
  | cons action actions ih =>
    obtain ⟨hdropped, hdisplays⟩ := hs.apply action
    obtain ⟨hlater, hsame⟩ := ih hdropped
    exact ⟨hlater, hsame.trans hdisplays⟩

/-- It is so as soon as the session was ended, at any time. -/
theorem of_close {actions : List Action} (h : .close ∈ actions) (s : Session) :
    (s.applyAll actions).Dropped := by
  obtain ⟨before, after, rfl⟩ := List.append_of_mem h
  rw [Session.applyAll, List.foldl_append, List.foldl_cons]
  have hclosed : (Session.apply .close (s.applyAll before)).Dropped := by
    simp only [Session.apply, begin, run_nil]
    exact ⟨rfl, rfl⟩
  exact (hclosed.applyAll after).1

/-- **An answer is of no use then**: its request waits no longer, and something is logged. -/
theorem ignores_reply (hs : s.Dropped) (hundecided : s.Undecided) {reply : Api.Reply}
    {auth : Api.AuthMethod} (hauth : Api.authMethodOf reply = .ok auth) :
    Ignores 1 s (s.apply (.reply reply)) ∧ (s.apply (.reply reply)).Decided ∧
      (s.apply (.reply reply)).reports = [] := by
  obtain ⟨hdecided, hreports⟩ := hundecided.reply reply
  refine ⟨?_, hdecided, ?_⟩
  · obtain ⟨request, rest, hwaiting, -⟩ := hundecided.waiting
    have hdead : ¬ (s.answered rest request reply).isAlive = true := by
      simp [answered, hs.isAlive]
    refine ⟨request.replyEvents reply ++ [.pagerDropped], ?_⟩
    rw [apply_reply_first hwaiting, hauth]
    simp only [settleFirst, if_neg hdead, finish, run_nil]
    simp [log, emit, answered, hwaiting]
  · rw [hreports, hauth, report, if_neg (by simp [hs.isAlive])]

end Dropped

/-! ## What each reply comes to -/

/-- **The first page is decided by the answer to the first question.** The answer is reported once,
however the session goes on. If it cannot be read, the report has the status of a response that is
no success, and zero otherwise. Nothing else is done then: nothing is displayed, bound, rendered or
asked, and logging out stays as it is. If it can be read, users prove who they are by a password if
and only if exactly that is named, and only then can they log out. If they do, and the first pair of
the session cookie is missing or has an empty value, a login form without a message is the first
page and nothing is asked; otherwise a dashboard is, and what it asks for is all that waits.

When the session was ended before an answer that can be read, the reply does nothing but take its
request off the wire and log, and nothing is ever displayed or reported.

**Proof sketch.** However a session began, it is one that has just asked and gets its answer
(`Begun.exists_asked`), and it reports once (`Begun.reports_eq`, `Decided.applyAll`). An error
leaves nothing (`failed_asked`). An answer displays the page that `firstPage` chooses by method and
token (`exists_prepared`), a form (`Prepared.login`) or a dashboard (`Prepared.dashboard`). When the
session was ended before, the reply finds nobody (`Dropped.ignores_reply`), and that stays so. -/
theorem reply_decides_first_page (services : Services) (reply : Api.Reply) :
    (∀ cookies t, Begun services reply cookies t →
      let question := services.client.request .authMethod
      let value := Cookie.valueOf services.cookie.toList (Cookie.pairs cookies.toList)
      (∀ actions : List Action, (t.applyAll actions).reports = t.reports) ∧
      ((∀ given, ¬ reply.Names given) → ∃ e waits,
        t.reports = [.error e] ∧ e.status = reply.errorStatus ∧
        t.outward = [.sent question waits, .ready (.error e)] ∧
        Bare t ∧ t.isLogoutAvailable = none ∧ t.wire.waiting = []) ∧
      ∀ given, reply.Names given → ∃ auth,
        t.reports = [.ok auth] ∧ (auth = .userpass ↔ given = some "Userpass") ∧
        t.bindings .logout = (if auth = .userpass then some .logout else none) ∧
        t.isLogoutAvailable = some (decide (auth = .userpass)) ∧
        (auth = .userpass ∧ (value = none ∨ value = some []) →
          ShowsLogin 0 none t ∧ t.requests = [question] ∧ t.wire.waiting = []) ∧
        (¬ (auth = .userpass ∧ (value = none ∨ value = some [])) →
          DashboardScreen 0 t ∧ ∃ request, request.method = .get ∧ request.url.path = "/v1/cache" ∧
            t.requests = [question, request] ∧ t.wire.waiting = [(request, .refresh 0)])) ∧
    ∀ now cookies (before : List Action), (∀ action ∈ before, ∀ early, action ≠ .reply early) →
      .close ∈ before → ∀ given, reply.Names given →
        let s := (start services now cookies []).bootstrap.applyAll before
        Ignores 1 s (s.apply (.reply reply)) ∧
        ∀ actions : List Action,
          let u := (s.apply (.reply reply)).applyAll actions
          u.reports = [] ∧ u.current = none ∧ u.displays = s.displays := by
  constructor
  · intro cookies t ht question value
    obtain ⟨hdecided, hreports⟩ := ht.reports_eq
    obtain ⟨now, form, waits, rfl⟩ := ht.exists_asked
    refine ⟨hdecided.applyAll, fun hfails => ?_, fun given hnames => ?_⟩
    · obtain ⟨e, herror, hstatus⟩ := Api.exists_error_of_not_names hfails
      rw [herror] at hreports ⊢
      exact ⟨e, waits, hreports, hstatus, failed_asked services now cookies form waits reply e⟩
    · have hauth := (Api.authMethodOf_eq_ok_iff reply _).mpr ⟨given, hnames, rfl⟩
      obtain ⟨v, hv, hopens⟩ := exists_prepared services now cookies form waits reply
        (Api.AuthMethod.ofName given)
      rw [hauth, hopens] at hreports ⊢
      obtain ⟨hlogout, havailable⟩ := hv.logout_opens
        (firstPage (Api.AuthMethod.ofName given) (Cookie.token cookies services.cookie).isSome)
        (.ok (Api.AuthMethod.ofName given))
      refine ⟨_, hreports, Api.AuthMethod.ofName_eq_userpass_iff given, hlogout, havailable,
        fun hlogin => ?_, fun hdashboard => ?_⟩
      · rw [← Cookie.isSome_token_eq_false_iff] at hlogin
        rw [firstPage, if_pos hlogin]
        exact hv.login _
      · rw [← Cookie.isSome_token_eq_false_iff] at hdashboard
        rw [firstPage, if_neg hdashboard]
        obtain ⟨hscreen, hrequests, hwaiting⟩ := hv.dashboard (.ok (Api.AuthMethod.ofName given))
        exact ⟨hscreen, _, rfl, services.client.path_request .inventory, hrequests, hwaiting⟩
  · intro now cookies before hbefore hclose given hnames s
    have hundecided : s.Undecided := (undecided_bootstrap services now cookies).applyAll hbefore
    have hdropped : s.Dropped := .of_close hclose _
    have hauth := (Api.authMethodOf_eq_ok_iff reply _).mpr ⟨given, hnames, rfl⟩
    obtain ⟨hignores, hdecided, hreports⟩ := hdropped.ignores_reply hundecided hauth
    obtain ⟨hreplied, hdisplays⟩ := hdropped.apply (.reply reply)
    refine ⟨hignores, fun actions => ?_⟩
    obtain ⟨hlater, hsame⟩ := hreplied.applyAll actions
    exact ⟨(hdecided.applyAll actions).trans hreports, hlater.current, hsame.trans hdisplays⟩

/-- A backend with users and no token among the cookies: a login form comes to the screen, and users
can log out. When the session was ended before the same answer, nothing comes of it.

**Proof sketch.** The reply names the method by evaluation, and there is no cookie. The theorem is
applied to the session that gets the reply later, and to the one that is ended before. -/
theorem reply_decides_first_page_standardStart :
    let reply : Api.Reply := .response ⟨200, "\x7b\"auth_type\":\"Userpass\"\x7d"⟩
    let opened := standardStart.bootstrap.apply (.reply reply)
    let late := (standardStart.bootstrap.apply .close).apply (.reply reply)
    (opened.reports = [.ok .userpass] ∧ ShowsLogin 0 none opened ∧ opened.wire.waiting = [] ∧
      opened.bindings .logout = some .logout) ∧ late.reports = [] ∧ late.current = none := by
  intro reply opened late
  have hnames : reply.Names (some "Userpass") := ⟨_, rfl, by decide, by cbv⟩
  have hjar : standardStart.bootstrap.jar.raw = "" := by
    rw [standardStart, bootstrap_start]
    rfl
  have hbegun : Begun standardServices reply "" opened :=
    hjar ▸ .later 0 "" (List.forall_mem_nil _) rfl
  obtain ⟨-, -, hread⟩ := (reply_decides_first_page standardServices reply).1 "" opened hbegun
  obtain ⟨auth, hreports, hauth, hlogout, -, hlogin, -⟩ := hread _ hnames
  obtain rfl := hauth.mpr rfl
  have hvalue : Cookie.valueOf standardServices.cookie.toList (Cookie.pairs "".toList) = none := by
    decide
  obtain ⟨hshows, -, hwaiting⟩ := hlogin ⟨rfl, .inl hvalue⟩
  obtain ⟨-, hlater⟩ := (reply_decides_first_page standardServices reply).2 0 "" [.close] (by simp)
    (by simp) _ hnames
  obtain ⟨hnone, hcurrent, -⟩ := hlater []
  exact ⟨⟨hreports, hshows, hwaiting, hlogout⟩, hnone, hcurrent⟩

end Session

end CertDashboard
