import CertDashboard.Proofs.Api.Exchange
import CertDashboard.Proofs.Session.Dashboards
import CertDashboard.Proofs.Session.Lifecycle

set_option autoImplicit false
set_option relaxedAutoImplicit false

/-!
# Changes that leave the login alone

Cookies are written on two occasions only, and whether logging out is possible is settled once. All
other changes are neutral: they write no cookie and leave logging out as it is.

## Main definitions

* `CertDashboard.Session.written` — the assignments that were written into the cookie jar.
* `CertDashboard.Session.Neutral` — a neutral change.
* `CertDashboard.Session.Passage` — what an ordinary action comes to for the login.

## Main results

* `CertDashboard.Session.Neutral.trans` — neutral changes one after another are one.
* `CertDashboard.Session.Sound.apply_reply_expired`, `CertDashboard.Session.Sound.apply_logout` —
  the two occasions on which the session token is removed.
* `CertDashboard.Session.Sound.passage` — what an ordinary action comes to for the login.
-/

namespace CertDashboard

namespace Api

/-- An inventory is refused as unauthorized only by a response with that status. -/
theorem status_of_isUnauthorized {reply : Reply} {e : Error} (h : inventoryOf reply = .error e)
    (hunauthorized : e.isUnauthorized = true) :
    ∃ response, reply = .response response ∧ response.status = Error.unauthorized :=
  (exists_unauthorized_iff .inventory reply).mp ⟨e, errorOf_eq_some_iff.mpr h, hunauthorized⟩

/-- An inventory is refused as unauthorized by every response with that status. -/
theorem inventoryOf_unauthorized {response : Response}
    (h : response.status = Error.unauthorized) :
    ∃ e, inventoryOf (.response response) = .error e ∧ e.isUnauthorized = true := by
  obtain ⟨e, he, hunauthorized⟩ :=
    (exists_unauthorized_iff .inventory (.response response)).mpr ⟨response, rfl, h⟩
  exact ⟨e, errorOf_eq_some_iff.mp he, hunauthorized⟩

end Api

namespace Session

/-! ## Effects -/

/-- The assignment that an effect writes into the cookie jar, if it writes one. -/
def Effect.assignment? : Effect → Option String
  | .cookie assignment => some assignment
  | _ => none

/-- What an effect says about logging out, if it says something. -/
def Effect.availability? : Effect → Option Bool
  | .logoutAvailable isAvailable => some isAvailable
  | _ => none

/-- Whether an effect writes no cookie and says nothing about logging out. -/
def Effect.IsNeutral (e : Effect) : Prop :=
  e.assignment? = none ∧ e.availability? = none

/-- **The assignments that were written into the cookie jar**, in order. -/
def written (s : Session) : List String :=
  s.trace.filterMap Effect.assignment?

/-- What was written, after further effects. -/
theorem written_of_trace {s t : Session} {es : List Effect} (h : t.trace = s.trace ++ es) :
    t.written = s.written ++ es.filterMap Effect.assignment? := by
  rw [written, h, List.filterMap_append]
  rfl

/-- Whether logging out is possible, after further effects: the last one that says something about
it decides. -/
theorem isLogoutAvailable_of_trace {s t : Session} {es : List Effect}
    (h : t.trace = s.trace ++ es) : t.isLogoutAvailable =
      (es.reverse.findSome? Effect.availability?).or s.isLogoutAvailable := by
  have heq : ∀ u : Session, u.isLogoutAvailable =
      u.trace.reverse.findSome? Effect.availability? := by
    intro u
    unfold isLogoutAvailable
    congr 1
  rw [heq, heq, h, List.reverse_append, List.findSome?_append]

/-- The effects of making logging out possible, or not: no cookie is written. -/
theorem trace_wireLogout (auth : Api.AuthMethod) (s : Session) : ∃ es,
    (s.wireLogout auth).trace = s.trace ++ es ∧ es.filterMap Effect.assignment? = [] ∧
      es.reverse.findSome? Effect.availability? = some (decide (auth = .userpass)) := by
  cases auth with
  | anonymous => exact ⟨_, rfl, rfl, rfl⟩
  | userpass =>
    exact ⟨[.logoutAvailable true, .bind .logout .logout], by simp [wireLogout, bind, emit], rfl,
      rfl⟩

/-! ## Neutral changes -/

/-- **A neutral change**: no cookie is written, and logging out is left as it is. -/
structure Neutral (s t : Session) : Prop where
  /-- Pages are built from the same. -/
  services : t.services = s.services
  /-- The cookie jar is the same. -/
  jar : t.jar = s.jar
  /-- Logging out is bound to the same. -/
  logout : t.bindings .logout = s.bindings .logout
  /-- Nothing is written, and nothing is said about logging out. -/
  trace : ∃ es, t.trace = s.trace ++ es ∧ ∀ e ∈ es, e.IsNeutral

namespace Neutral

variable {s t u : Session}

/-- A change of what neither cookies nor logging out depend on is neutral. -/
theorem of_trace (htrace : t.trace = s.trace) (hservices : t.services = s.services)
    (hjar : t.jar = s.jar) (hlogout : t.bindings .logout = s.bindings .logout) : Neutral s t :=
  ⟨hservices, hjar, hlogout, [], by simp [htrace], by simp⟩

/-- No change is neutral. -/
theorem refl (s : Session) : Neutral s s :=
  of_trace rfl rfl rfl rfl

/-- Neutral changes one after another are a neutral change. -/
theorem trans (h : Neutral s t) (h' : Neutral t u) : Neutral s u := by
  obtain ⟨es, htrace, hes⟩ := h.trace
  obtain ⟨es', htrace', hes'⟩ := h'.trace
  refine ⟨h'.services.trans h.services, h'.jar.trans h.jar, h'.logout.trans h.logout, es ++ es',
    ?_, ?_⟩
  · rw [htrace', htrace, List.append_assoc]
  · intro e he
    rcases List.mem_append.mp he with he | he
    · exact hes e he
    · exact hes' e he

/-- Behind a neutral change the same was written. -/
theorem written_eq (h : Neutral s t) : t.written = s.written := by
  obtain ⟨es, htrace, hes⟩ := h.trace
  have hnone : es.filterMap Effect.assignment? = [] :=
    List.filterMap_eq_nil_iff.mpr fun e he => (hes e he).1
  rw [written_of_trace htrace, hnone, List.append_nil]

/-- Behind a neutral change logging out is as possible as before. -/
theorem isLogoutAvailable_eq (h : Neutral s t) : t.isLogoutAvailable = s.isLogoutAvailable := by
  obtain ⟨es, htrace, hes⟩ := h.trace
  have hnone : es.reverse.findSome? Effect.availability? = none :=
    List.findSome?_eq_none_iff.mpr fun e he => (hes e (List.mem_reverse.mp he)).2
  rw [isLogoutAvailable_of_trace htrace, hnone, Option.none_or]

/-- A neutral effect is a neutral change. -/
theorem emit {e : Effect} (he : e.IsNeutral) (s : Session) : Neutral s (s.emit e) :=
  ⟨rfl, rfl, rfl, [e], rfl, by simpa using he⟩

/-- Logging is neutral. -/
theorem log (event : Log.Event) (s : Session) : Neutral s (s.log event) :=
  emit ⟨rfl, rfl⟩ s

/-- The answer to a request is neutral. -/
theorem answered (rest : List (Api.Request × Purpose)) (request : Api.Request) (reply : Api.Reply)
    (s : Session) : Neutral s (s.answered rest request reply) := by
  refine ⟨rfl, rfl, rfl, _, rfl, fun e he => ?_⟩
  obtain ⟨event, -, rfl⟩ := List.mem_map.mp he
  exact ⟨rfl, rfl⟩

/-- A request that waits is neutral. -/
theorem asking (purpose : Purpose) (call : Api.Call) (s : Session) :
    Neutral s (s.asking purpose call) := by
  refine ⟨rfl, rfl, rfl, _, rfl, fun e he => ?_⟩
  simp only [List.mem_cons, List.not_mem_nil, or_false] at he
  rcases he with rfl | rfl <;> exact ⟨rfl, rfl⟩

/-- Clearing the login form is neutral. -/
theorem cleared (s : Session) : Neutral s s.cleared := by
  have hform : Neutral s { s with form := { s.form with password := "" } } :=
    of_trace rfl rfl rfl rfl
  exact (hform.trans (emit (e := .clearPassword) ⟨rfl, rfl⟩ _)).trans (log .loginAttempt _)

/-- Rendering a dashboard is neutral. -/
theorem renderDashboard (p : Nat) (s : Session) : Neutral s (s.renderDashboard p) := by
  unfold Session.renderDashboard
  split
  · exact refl s
  · split
    · exact refl s
    · exact (emit ⟨rfl, rfl⟩ s).trans (emit ⟨rfl, rfl⟩ _)

/-- Changing the horizon is neutral. -/
theorem toggle (p : Nat) (s : Session) : Neutral s (s.toggle p) := by
  unfold Session.toggle
  split
  · exact refl s
  · next d _ =>
    have hchange : Neutral s ((s.log (.horizonToggled (s.otherHorizon d.horizon))).modifyDashboard p
        fun d' => { d' with horizon := some (s.otherHorizon d.horizon) }) :=
      (log _ s).trans (of_trace rfl rfl rfl rfl)
    exact hchange.trans (renderDashboard p _)

/-- An inventory that comes is neutral. -/
theorem refreshed (p : Nat) (certificates : List Certificate) (s : Session) :
    Neutral s (s.refreshed p certificates) := by
  have hcancel : ∀ u : Session, Neutral u (u.cancelTimer p) := by
    intro u
    rw [cancelTimer_eq]
    refine ⟨rfl, rfl, rfl, _, rfl, fun e he => ?_⟩
    obtain ⟨number, -, rfl⟩ := List.mem_map.mp he
    exact ⟨rfl, rfl⟩
  have hsnapshot : Neutral s
      (s.modifyDashboard p fun d => { d with snapshot := some certificates }) :=
    of_trace rfl rfl rfl rfl
  exact ((hsnapshot.trans (renderDashboard p _)).trans (hcancel _)).trans (of_trace rfl rfl rfl rfl)

/-- **Displaying a page is neutral.**

**Proof sketch.** The trace grows by a log line, the farewell of the page before and the greeting of
this one; none of these writes a cookie or says whether one can log out. The gesture of a page is
one of its own, never the one to log out. -/
theorem showing (p : Nat) (page : Page) (s : Session) : Neutral s (s.showing p page) := by
  have hfarewell : ∀ e ∈ s.farewell, e.IsNeutral := by
    intro e he
    rcases mem_farewell he with ⟨n, rfl⟩ | ⟨g, rfl⟩ | ⟨surface, rfl⟩ <;>
      simp [Effect.IsNeutral, Effect.assignment?, Effect.availability?]
  have hgreeting : ∀ e ∈ s.greeting p page, e.IsNeutral := by
    obtain ⟨body, hasContext, isActive⟩ := page
    cases body <;> simp [greeting, Effect.IsNeutral, Effect.assignment?, Effect.availability?]
  have hlogout : (s.showing p page).bindings .logout = s.bindings .logout := by
    simp [Session.showing, unbound, page.gesture_ne_logout.symm]
  refine ⟨rfl, rfl, hlogout, _, trace_showing p page s, fun e he => ?_⟩
  rcases List.mem_append.mp he with he | he
  · rcases List.mem_append.mp he with he | he
    · obtain rfl := List.mem_singleton.mp he
      exact ⟨rfl, rfl⟩
    · exact hfarewell e he
  · exact hgreeting e he

/-- Making a page and displaying it is neutral. -/
theorem opening (page : Page) (s : Session) : Neutral s (s.opening page) := by
  have hadd : Neutral s (s.addPage page).2 := of_trace rfl rfl rfl rfl
  exact hadd.trans (showing s.pages.length page _)

end Neutral

/-! ## Passages -/

/-- **What an ordinary action comes to for the login.** -/
inductive Passage (s : Session) : Action → Session → Prop where
  /-- A neutral change. -/
  | neutral {action : Action} {t : Session} : Neutral s t → Passage s action t
  /-- The cookies are replaced from outside. -/
  | replaced (cookies : String) : Passage s (.setCookies cookies) { s with jar := ⟨cookies⟩ }
  /-- It turns out how users prove who they are: logging out is made possible, or not. -/
  | first {t u : Session} {request : Api.Request} {reply : Api.Reply} {auth : Api.AuthMethod} :
    s.wire.waiting.head? = some (request, .firstPage) → Api.authMethodOf reply = .ok auth →
      Neutral s t → Neutral (t.wireLogout auth) u → Passage s (.reply reply) u
  /-- The backend does not accept the session of the dashboard that is current any longer. -/
  | expires {t : Session} {request : Api.Request} {response : Api.Response} {p : Nat} :
    s.wire.waiting.head? = some (request, .refresh p) → s.current = some p →
      response.status = Api.Error.unauthorized → Neutral s t →
        Passage s (.reply (.response response)) (t.clearToken.opening (.login (some sessionExpired)))
  /-- The user logs out. -/
  | leaves {t : Session} : s.bindings .logout = some .logout → Neutral s t →
    Passage s (.gesture .logout) (t.clearToken.opening (.login none))

namespace Sound

variable {s : Session}

/-- **The reply that the first page depends on** makes logging out possible, or not, with neutral
changes before and behind. -/
theorem neutral_wireLogout (hs : s.Sound) {request : Api.Request}
    {rest : List (Api.Request × Purpose)} (hwaiting : s.wire.waiting = (request, .firstPage) :: rest)
    {reply : Api.Reply} {auth : Api.AuthMethod} (hauth : Api.authMethodOf reply = .ok auth) :
    Neutral ((s.answered rest request reply).wireLogout auth) (s.apply (.reply reply)) := by
  have hsound := hs.quiet (quiet_answered (hwaiting ▸ List.suffix_cons _ _) request reply)
  obtain ⟨event, heq⟩ := hsound.finish_settleFirst auth
  rw [hs.apply_reply hwaiting]
  simp only [settlement, hauth]
  rw [heq]
  exact ((Neutral.log event _).trans (.opening _ _)).trans (.emit ⟨rfl, rfl⟩ _)

/-- The reply that the first page depends on, as a passage. -/
theorem passage_first (hs : s.Sound) {request : Api.Request}
    {rest : List (Api.Request × Purpose)}
    (hwaiting : s.wire.waiting = (request, .firstPage) :: rest) (reply : Api.Reply) :
    Passage s (.reply reply) (s.apply (.reply reply)) := by
  have hanswered : Neutral s (s.answered rest request reply) := .answered rest request reply s
  rcases hauth : Api.authMethodOf reply with e | auth
  · rw [hs.apply_reply hwaiting]
    simp only [settlement, hauth, settleFirst, finish, run_nil]
    exact .neutral ((hanswered.trans (.log _ _)).trans (.emit ⟨rfl, rfl⟩ _))
  · exact .first (List.head?_eq_some_iff.mpr ⟨rest, hwaiting⟩) hauth hanswered
      (hs.neutral_wireLogout hwaiting hauth)

/-- **A session that is not accepted any longer**: the session token is removed, and a login form
says why.

**Proof sketch.** The reply goes to the current page and is an error that is unauthorized
(`Api.inventoryOf_unauthorized`). Reading it, logging it and clearing the token are quiet changes,
so that displaying the form runs from a sound session. -/
theorem apply_reply_expired (hs : s.Sound) {request : Api.Request} {p : Nat}
    {rest : List (Api.Request × Purpose)}
    (hwaiting : s.wire.waiting = (request, .refresh p) :: rest) (hp : s.current = some p)
    {response : Api.Response} (hstatus : response.status = Api.Error.unauthorized) :
    s.apply (.reply (.response response)) =
      ((s.answered rest request (.response response)).log .sessionExpired).clearToken.opening
        (.login (some sessionExpired)) := by
  have hquiet : Quiet s (s.answered rest request (.response response)) :=
    quiet_answered (hwaiting ▸ List.suffix_cons _ _) request _
  have hcurrent : (s.answered rest request (.response response)).current = some p := hp
  obtain ⟨e, herror, hunauthorized⟩ := Api.inventoryOf_unauthorized hstatus
  rw [hs.apply_reply hwaiting]
  simp only [settlement, if_pos hcurrent, settleRefresh, herror, if_pos hunauthorized]
  exact (hs.quiet ((hquiet.trans (.log .sessionExpired _)).trans (.clearToken _))).run_displayNew
    (isFresh_login _)

/-- The reply to a refresh, as a passage.

**Proof sketch.** By whether the page is current and the status is the one for a session that has
ended. If so, that is the passage with the token removed (`apply_reply_expired`). Otherwise an
inventory is shown, a form is opened for an error of another kind, or the reply is only logged, and
all of these are neutral. -/
theorem passage_refresh (hs : s.Sound) {request : Api.Request} {p : Nat}
    {rest : List (Api.Request × Purpose)}
    (hwaiting : s.wire.waiting = (request, .refresh p) :: rest) (reply : Api.Reply) :
    Passage s (.reply reply) (s.apply (.reply reply)) := by
  have hanswered : Neutral s (s.answered rest request reply) := .answered rest request reply s
  by_cases hexpired : s.current = some p ∧
      ∃ response, reply = .response response ∧ response.status = Api.Error.unauthorized
  · obtain ⟨hp, response, rfl, hstatus⟩ := hexpired
    rw [hs.apply_reply_expired hwaiting hp hstatus]
    exact .expires (List.head?_eq_some_iff.mpr ⟨rest, hwaiting⟩) hp hstatus
      (hanswered.trans (.log .sessionExpired _))
  · rw [hs.apply_reply hwaiting]
    simp only [settlement]
    split
    · next hp =>
      unfold settleRefresh
      split
      · simp only [finish, run_nil]
        exact .neutral ((hanswered.trans (.log _ _)).trans (.refreshed p _ _))
      · next e herror =>
        split
        · next hunauthorized =>
          exact absurd ⟨hp, Api.status_of_isUnauthorized herror hunauthorized⟩ hexpired
        · have hquiet := quiet_answered
            (hwaiting ▸ List.suffix_cons _ _ : rest <:+ s.wire.waiting) request reply
          rw [(hs.quiet (hquiet.trans (.log _ _))).run_displayNew (isFresh_login _)]
          exact .neutral ((hanswered.trans (.log _ _)).trans (.opening _ _))
    · simp only [finish, run_nil]
      exact .neutral (hanswered.trans (.log _ _))

/-- **A reply is a passage.**

**Proof sketch.** By what the reply answers. The first page and the refresh have their lemmas
(`passage_first`, `passage_refresh`). A login opens a page if its form is current, and is only
logged if not. -/
theorem passage_reply (hs : s.Sound) (reply : Api.Reply) :
    Passage s (.reply reply) (s.apply (.reply reply)) := by
  rcases hwaiting : s.wire.waiting with _ | ⟨⟨request, purpose⟩, rest⟩
  · rw [apply_reply_nil hwaiting]
    exact .neutral (.refl s)
  · cases purpose with
    | firstPage => exact hs.passage_first hwaiting reply
    | refresh p => exact hs.passage_refresh hwaiting reply
    | login p =>
      have hanswered : Neutral s (s.answered rest request reply) := .answered rest request reply s
      by_cases hp : s.current = some p
      · obtain ⟨event, page, -, heq⟩ := hs.apply_reply_login hwaiting hp reply
        rw [heq]
        exact .neutral ((hanswered.trans (.log event _)).trans (.opening page _))
      · obtain ⟨events, heq⟩ := hs.discards (by rw [hwaiting]; rfl) rfl hp reply
        rw [heq]
        refine .neutral ⟨rfl, rfl, rfl, _, rfl, fun e he => ?_⟩
        obtain ⟨event, -, rfl⟩ := List.mem_map.mp he
        exact ⟨rfl, rfl⟩

/-- What logs out is the gesture for that. -/
theorem of_bound_logout (hs : s.Sound) {g : Gesture} (h : s.bindings g = some .logout) :
    g = .logout := by
  cases g with
  | logout => rfl
  | loginSubmit =>
    cases hs.screen with
    | blank b => exact absurd (b.submit.symm.trans h) (by simp)
    | login p l => exact absurd (l.submit.symm.trans h) (by simp)
    | dashboard p d => exact absurd (d.submit.symm.trans h) (by simp)
  | toggleHorizon =>
    cases hs.screen with
    | blank b => exact absurd (b.toggle.symm.trans h) (by simp)
    | login p l => exact absurd (l.toggle.symm.trans h) (by simp)
    | dashboard p d => exact absurd (d.toggle.symm.trans h) (by simp)

/-- **Logging out**: the session token is removed, and a login form without a message is
displayed. -/
theorem apply_logout (hs : s.Sound) (h : s.bindings .logout = some .logout) :
    s.apply (.gesture .logout) = (s.log .logout).clearToken.opening (.login none) := by
  have hquiet := (Quiet.log .logout s).trans (.clearToken _)
  rw [apply_gesture h]
  exact (hs.quiet hquiet).run_displayNew (isFresh_login none)

/-- **A gesture is a passage.**

**Proof sketch.** By the handler that is bound. Sending a login and changing the horizon are
neutral; logging out is the passage of its own. -/
theorem passage_gesture (hs : s.Sound) (g : Gesture) :
    Passage s (.gesture g) (s.apply (.gesture g)) := by
  rcases hbound : s.bindings g with _ | handler
  · have hrest : s.apply (.gesture g) = s := by simp [apply, begin, hbound]
    rw [hrest]
    exact .neutral (.refl s)
  · cases handler with
    | submit p =>
      obtain ⟨-, hp, -⟩ := hs.of_bound_submit hbound
      rw [apply_gesture hbound, handle, hs.finish_submit hp]
      exact .neutral ((Neutral.cleared s).trans (.asking _ _ _))
    | toggle p =>
      rw [apply_gesture hbound]
      simp only [handle, finish, run_nil]
      exact .neutral (.toggle p s)
    | logout =>
      obtain rfl := hs.of_bound_logout hbound
      rw [hs.apply_logout hbound]
      exact .leaves hbound (.log .logout s)

/-- **These passages are all there are.**

**Proof sketch.** By the kinds of actions. Replies and gestures have their lemmas (`passage_reply`,
`passage_gesture`), a jar that is replaced from outside is the passage of that name, and all else is
neutral: it has no effect at all, displays a page, or sends the request of a timer. -/
theorem passage (hs : s.Sound) {action : Action} (h : action.IsOrdinary) :
    Passage s action (s.apply action) := by
  cases action with
  | keep body plans =>
    obtain ⟨-, rfl⟩ := h
    simp only [apply, begin, make, List.filterMap_nil, run_nil]
    exact .neutral (.of_trace rfl rfl rfl rfl)
  | present body plans =>
    obtain ⟨hbody, rfl⟩ := h
    rw [hs.apply_present hbody]
    exact .neutral (.opening _ s)
  | hold =>
    simp only [apply, begin, run_nil]
    exact .neutral (.of_trace rfl rfl rfl rfl)
  | display place =>
    rcases hs.apply_display_cases place with heq | ⟨p, page, -, heq⟩
    · rw [heq]
      exact .neutral (.refl s)
    · rw [heq]
      exact .neutral (.showing p page s)
  | drop place =>
    simp only [apply, begin, run_nil]
    exact .neutral (.of_trace rfl rfl rfl rfl)
  | type credentials =>
    simp only [apply, begin, run_nil]
    exact .neutral (.of_trace rfl rfl rfl rfl)
  | gesture g => exact hs.passage_gesture g
  | reply reply => exact hs.passage_reply reply
  | elapse =>
    rcases hs.apply_elapse with ⟨-, heq⟩ | ⟨p, k, -, -, -, heq⟩
    · rw [heq]
      exact .neutral (.refl s)
    · rw [heq]
      have htimer : Neutral s (s.withTimer p none
          (s.callbacks.modify k fun c => { c with isSpent := true })) := .of_trace rfl rfl rfl rfl
      exact .neutral (htimer.trans (.asking _ _ _))
  | setClock now =>
    simp only [apply, begin, run_nil]
    exact .neutral (.of_trace rfl rfl rfl rfl)
  | setCookies cookies =>
    simp only [apply, begin, run_nil]
    exact .replaced cookies
  | activate place => exact h.elim
  | teardown place => exact h.elim
  | giveContext place => exact h.elim
  | close => exact h.elim
  | replay n => exact h.elim
  | script replies => exact h.elim
  | fire n => exact h.elim

end Sound

end Session

end CertDashboard
