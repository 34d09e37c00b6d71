import CertDashboard.Proofs.Session.Admission
import CertDashboard.Proofs.Session.Cookies

set_option autoImplicit false
set_option relaxedAutoImplicit false

/-!
# Logging out is final

Whether a user can log out is settled by the reply that the first page depends on, for good. Once
the user has logged out, nothing that was asked before comes to anything.

## Main definitions

* `CertDashboard.Session.Forsaken` — a session whose requests are all for pages that are not
  current.
* `CertDashboard.Session.Ignores` — what some replies do that nobody waits for any longer.

## Main results

* `CertDashboard.Session.Sound.ignores` — replies to a forsaken session come to nothing.
* `CertDashboard.Session.Ensues.logout_eq` — logging out stays as the first reply left it.
* `CertDashboard.Session.Ensues.logout_final` — logging out, in all states of a session in which
  nobody displays a page from outside.
-/

namespace CertDashboard

namespace Session

/-! ## Replies that nobody waits for -/

/-- **All requests that wait are for pages that are not current.** -/
def Forsaken (s : Session) : Prop :=
  ∀ e ∈ s.wire.waiting, ∃ p, e.2.page? = some p ∧ s.current ≠ some p

/-- **What some replies do that nobody waits for any longer**: as many requests wait no longer,
something may be logged, and all else stays as it was. -/
def Ignores (replies : Nat) (s t : Session) : Prop :=
  ∃ events : List Log.Event, t = { s with
    wire := { s.wire with waiting := s.wire.waiting.drop replies }
    trace := s.trace ++ events.map .log }

/-- One reply that is discarded, and others that are ignored then. -/
theorem Ignores.cons {n : Nat} {s t u : Session} (h : Discards s t) (h' : Ignores n t u) :
    Ignores (n + 1) s u := by
  obtain ⟨events, rfl⟩ := h
  obtain ⟨events', rfl⟩ := h'
  refine ⟨events ++ events', ?_⟩
  simp [List.drop_tail]

namespace Sound

variable {s : Session}

/-- A reply to a forsaken session is discarded. -/
theorem discards_of_forsaken (hs : s.Sound) (h : s.Forsaken) (reply : Api.Reply) :
    Discards s (s.apply (.reply reply)) := by
  rcases hwaiting : s.wire.waiting with _ | ⟨⟨request, purpose⟩, rest⟩
  · refine ⟨[], ?_⟩
    rw [apply_reply_nil hwaiting, hwaiting, List.map_nil, List.append_nil, List.tail_nil,
      ← hwaiting]
  · obtain ⟨p, hpage, hp⟩ := h (request, purpose) (hwaiting ▸ List.mem_cons_self)
    exact hs.discards (by rw [hwaiting]; rfl) hpage hp reply

/-- **Replies to a forsaken session come to nothing**, however many there are. -/
theorem ignores (hs : s.Sound) (h : s.Forsaken) (replies : List Api.Reply) :
    Ignores replies.length s (replies.foldl (fun s reply => s.apply (.reply reply)) s) := by
  induction replies generalizing s with
  | nil => exact ⟨[], by simp⟩
  | cons reply replies ih =>
    have hdiscards := hs.discards_of_forsaken h reply
    have hsound : (s.apply (.reply reply)).Sound := hs.of_outcome (hs.outcome_reply reply)
    have hforsaken : (s.apply (.reply reply)).Forsaken := by
      obtain ⟨events, heq⟩ := hdiscards
      rw [heq]
      exact fun e he => h e (List.mem_of_mem_tail he)
    exact .cons hdiscards (ih hsound hforsaken)

/-- Behind a login form that is made and displayed a session is forsaken, unless a request waits
that the first page depends on.

**Proof sketch.** Whatever waits was asked by a page that was there before, by the invariant on
waiting requests. The form is a new page, so none of those is current. -/
theorem forsaken_opening (hs : s.Sound) (hwaiting : ∀ e ∈ s.wire.waiting, e.2 ≠ .firstPage)
    (message : Option String) : (s.opening (.login message)).Forsaken := by
  intro e he
  have hold : e ∈ s.wire.waiting := he
  have hcurrent : (s.opening (.login message)).current = some s.pages.length := rfl
  -- The pages that asked were there before, and the login form was not.
  have hnumber : ∀ p kind, s.kindOf p = some kind → some s.pages.length ≠ some p := by
    intro p kind hkind heq
    obtain ⟨page, hpage, -⟩ := Option.map_eq_some_iff.mp hkind
    have hlt := (List.getElem?_eq_some_iff.mp hpage).1
    have hlength : s.pages.length = p := Option.some_inj.mp heq
    omega
  have hfits := hs.waiting e hold
  rw [hcurrent]
  rcases hpurpose : e.2 with _ | p | p
  · exact absurd hpurpose (hwaiting e hold)
  · rw [hpurpose] at hfits
    exact ⟨p, rfl, hnumber p _ hfits.1⟩
  · rw [hpurpose] at hfits
    exact ⟨p, rfl, hnumber p _ hfits.1⟩

end Sound

/-! ## Whether users can log out -/

/-- An action leaves logging out as it is, unless a request waits that the first page depends on.

**Proof sketch.** By the passages. Neutral changes touch neither the binding nor what is said about
logging out, and clearing the token writes a log line and a cookie only. The passage of the first
page is excluded by the hypothesis. -/
theorem Passage.logout_eq {s t : Session} {action : Action} (h : Passage s action t)
    (hwaiting : ∀ e ∈ s.wire.waiting, e.2 ≠ .firstPage) :
    t.bindings .logout = s.bindings .logout ∧ t.isLogoutAvailable = s.isLogoutAvailable := by
  have hopening : ∀ {u : Session} (message : Option String), Neutral s u →
      (u.clearToken.opening (.login message)).bindings .logout = s.bindings .logout ∧
        (u.clearToken.opening (.login message)).isLogoutAvailable = s.isLogoutAvailable := by
    intro u message hneutral
    have htrace : u.clearToken.trace = u.trace ++ [.log (.tokenCleared u.services.cookie),
        .cookie (Cookie.expiry u.services.cookie)] := by
      simp [clearToken, writeCookie, log, emit]
    have hcleared : u.clearToken.isLogoutAvailable = u.isLogoutAvailable := by
      rw [isLogoutAvailable_of_trace htrace]
      rfl
    have hopens := Neutral.opening (.login message) u.clearToken
    exact ⟨hopens.logout.trans hneutral.logout,
      (hopens.isLogoutAvailable_eq.trans hcleared).trans hneutral.isLogoutAvailable_eq⟩
  cases h with
  | neutral hneutral => exact ⟨hneutral.logout, hneutral.isLogoutAvailable_eq⟩
  | replaced cookies => exact ⟨rfl, rfl⟩
  | first hhead _ _ _ => exact absurd rfl (hwaiting _ (List.mem_of_head? hhead))
  | expires _ _ _ hneutral => exact hopening _ hneutral
  | leaves _ hneutral => exact hopening _ hneutral

/-- **Logging out stays as the first reply left it**, as long as nobody displays a page from
outside. -/
theorem Ensues.logout_eq {s t : Session} (hs : Reachable s)
    (hwaiting : ∀ e ∈ s.wire.waiting, e.2 ≠ .firstPage) (h : Ensues s t) :
    (∀ e ∈ t.wire.waiting, e.2 ≠ .firstPage) ∧
      t.bindings .logout = s.bindings .logout ∧ t.isLogoutAvailable = s.isLogoutAvailable := by
  induction h with
  | refl => exact ⟨hwaiting, rfl, rfl⟩
  | @step u action haction hu ih =>
    obtain ⟨hnone, hlogout, havailable⟩ := ih
    have hsound := (hs.ensues hu).sound
    obtain ⟨hlogout', havailable'⟩ := (hsound.passage haction.isOrdinary).logout_eq hnone
    exact ⟨waiting_of_outcome (hsound.apply_outcome haction.isOrdinary) hnone,
      hlogout'.trans hlogout, havailable'.trans havailable⟩

/-- What the reply that the first page depends on settles about logging out.

**Proof sketch.** The request is the first one, so the session is bare and nothing else waits
(`Ensues.first`). Wiring the logout binds it for a backend with users only, and says so; what
follows is neutral (`neutral_wireLogout`). -/
theorem Ensues.logout_first {services : Services} {now : Int64} {cookies : String} {s : Session}
    (h : Ensues (start services now cookies []).bootstrap s) {request : Api.Request}
    (hhead : s.wire.waiting.head? = some (request, .firstPage)) {reply : Api.Reply}
    {auth : Api.AuthMethod} (hauth : Api.authMethodOf reply = .ok auth) :
    (∀ e ∈ (s.apply (.reply reply)).wire.waiting, e.2 ≠ .firstPage) ∧
      (s.apply (.reply reply)).bindings .logout =
        (if auth = .userpass then some .logout else none) ∧
      (s.apply (.reply reply)).isLogoutAvailable = some (decide (auth = .userpass)) := by
  have hs := ((Reachable.begin (.asking services now cookies)).ensues h).sound
  rcases h.first with ⟨hbare, hwaiting⟩ | hnone
  · have hneutral := hs.neutral_wireLogout hwaiting hauth
    refine ⟨hs.waiting_firstPage hwaiting reply, ?_, ?_⟩
    · rw [hneutral.logout]
      cases auth with
      | anonymous => exact hbare.bindings .logout
      | userpass => rfl
    · obtain ⟨es, htrace, -, havailable⟩ :=
        trace_wireLogout auth (s.answered [] (services.client.request .authMethod) reply)
      rw [hneutral.isLogoutAvailable_eq, isLogoutAvailable_of_trace htrace, havailable,
        Option.some_or]
  · exact absurd rfl (hnone _ (List.mem_of_head? hhead))

/-- **Logging out is final.** A session begins with the question how users prove who they are, and
nobody displays a page from outside. If the answer is that they do by a password, the user can log
out from then on, whatever happens. That brings a login form without a message to the screen, leaves
no timer, no gesture that changes the horizon and no certificates to be seen, and writes one
assignment, which expires the cookie of the session. Any number of replies to what was asked before
then does nothing but take its requests off the wire and log: no page, gesture, timer, request or
cookie changes, and nothing is rendered. If the answer is that users have not to prove who they are,
they can never log out.

**Proof sketch.** What the first reply settles about logging out (`Ensues.logout_first`) stays so in
every run (`Ensues.logout_eq`). Logging out removes the token and opens a form
(`Sound.apply_of_removes`). No page that asked before is current then (`forsaken_opening`), so that
all later replies are ignored (`Sound.ignores`). -/
theorem Ensues.logout_final {services : Services} {now : Int64} {cookies : String} {s : Session}
    (h : Ensues (start services now cookies []).bootstrap s) {request : Api.Request}
    (hhead : s.wire.waiting.head? = some (request, .firstPage)) {reply : Api.Reply} {t : Session}
    (ht : Ensues (s.apply (.reply reply)) t) :
    let u := t.apply (.gesture .logout)
    let expiry := t.services.cookie ++ "=; Path=/; Expires=Thu, 01 Jan 1970 00:00:01 GMT;"
    (Api.authMethodOf reply = .ok .userpass →
      t.bindings .logout = some .logout ∧
        (∃ p, ShowsLogin p none u) ∧ u.timers = [] ∧ u.bindings .toggleHorizon = none ∧
        u.isVisible .certificatePanel ≠ some true ∧
        u.written = t.written ++ [expiry] ∧ u.jar = t.jar.write expiry ∧
        ∀ replies : List Api.Reply,
          Ignores replies.length u (replies.foldl (fun v reply => v.apply (.reply reply)) u)) ∧
    (Api.authMethodOf reply = .ok .anonymous →
      t.bindings .logout = none ∧ t.isLogoutAvailable = some false) := by
  intro u expiry
  have hreach := (Reachable.begin (.asking services now cookies)).ensues h
  have hreach' : Reachable (s.apply (.reply reply)) := .step _ trivial hreach
  have hs := (hreach'.ensues ht).sound
  refine ⟨fun hauth => ?_, fun hauth => ?_⟩
  · obtain ⟨hnone, hlogout, -⟩ := h.logout_first hhead hauth
    obtain ⟨hwaiting, hsame, -⟩ := ht.logout_eq hreach' hnone
    have hbound : t.bindings .logout = some .logout := hsame.trans hlogout
    obtain ⟨hremoved, hshows⟩ := hs.apply_of_removes (.logout hbound)
    have hafter : Reachable u := .step _ trivial (hreach'.ensues ht)
    have hopened : u = (t.log .logout).clearToken.opening (.login none) := hs.apply_logout hbound
    have hcleared : Quiet t (t.log .logout).clearToken := (Quiet.log .logout t).trans (.clearToken _)
    have hforsaken : u.Forsaken := by
      rw [hopened]
      exact (hs.quiet hcleared).forsaken_opening hwaiting none
    have htimers : u.timers = [] := by
      rw [hopened]
      rfl
    have hexpiry : Cookie.expiry t.services.cookie = expiry := by
      simp [expiry, Cookie.expiry, Cookie.pastDate, String.append_assoc]
    exact ⟨hbound, ⟨_, hshows⟩, htimers, hshows.screen.toggle, hshows.screen.certificatePanel,
      hexpiry ▸ hremoved.written, hexpiry ▸ hremoved.jar, hafter.sound.ignores hforsaken⟩
  · obtain ⟨hnone, hlogout, havailable⟩ := h.logout_first hhead hauth
    obtain ⟨-, hsame, hsame'⟩ := ht.logout_eq hreach' hnone
    exact ⟨hsame.trans hlogout, hsame'.trans havailable⟩

/-- A user who logs out while a login is on its way: it would have succeeded, but its reply does
nothing any more.

**Proof sketch.** The session with a form is computed from the first reply, and its login is sent.
`Ensues.logout_final` is applied to the run up to there; the reply to the login is one that is
ignored. -/
theorem logout_final_standardStart :
    let opened := standardStart.bootstrap.apply
      (.reply (.response ⟨200, "\x7b\"auth_type\":\"Userpass\"\x7d"⟩))
    let asked := opened.submitAll [⟨"ann", "secret"⟩]
    let left := asked.apply (.gesture .logout)
    let late := left.apply (.reply (.response ⟨200, ""⟩))
    left.wire.waiting = [(standardServices.client.request (.login ⟨"ann", "secret"⟩), .login 0)] ∧
      (∃ p, ShowsLogin p none left) ∧ late.current = left.current ∧ late.pages = left.pages ∧
      late.wire.waiting = [] := by
  intro opened asked left late
  have hfirst : standardStart.bootstrap =
      (standardStart.log (.started version)).asking .firstPage .authMethod := bootstrap_start _ _ _
  have hs : standardStart.bootstrap.Sound := (Begins.asking standardServices 0 "").sound
  have hwaiting : standardStart.bootstrap.wire.waiting =
      [(standardServices.client.request .authMethod, .firstPage)] := by
    rw [hfirst]
    rfl
  have hauth : Api.authMethodOf (.response ⟨200, "\x7b\"auth_type\":\"Userpass\"\x7d"⟩) =
      .ok .userpass := by cbv
  have hopened : opened.current = some 0 ∧ opened.kindOf 0 = some .login ∧
      opened.wire.waiting = [] ∧ opened.services = standardServices := by
    have hsound := hs.quiet (quiet_answered List.nil_suffix
      (standardServices.client.request .authMethod)
      (.response ⟨200, "\x7b\"auth_type\":\"Userpass\"\x7d"⟩))
    obtain ⟨event, heq⟩ := hsound.finish_settleFirst .userpass
    have happly : opened = finish _ := hs.apply_reply hwaiting _
    rw [happly]
    simp only [settlement, hauth]
    rw [heq, hfirst]
    exact ⟨rfl, rfl, rfl, rfl⟩
  have hbegun : Ensues (start standardServices 0 "" []).bootstrap standardStart.bootstrap := .refl
  have hreach : Reachable opened :=
    .step _ trivial ((Reachable.begin (.asking standardServices 0 "")).ensues hbegun)
  have hensues : Ensues opened asked := .step (.gesture .loginSubmit) trivial
    (.step (.type ⟨"ann", "secret"⟩) trivial .refl)
  have hasked := (hreach.sound.waiting_submitAll hopened.1 hopened.2.1 [⟨"ann", "secret"⟩]).2
  obtain ⟨hfinal, -⟩ := hbegun.logout_final (congrArg List.head? hwaiting) hensues
  obtain ⟨hbound, hshows, -, -, -, -, -, hignores⟩ := hfinal hauth
  have hleft : left.wire.waiting =
      [(standardServices.client.request (.login ⟨"ann", "secret"⟩), .login 0)] := by
    have hlogout : left = (asked.log .logout).clearToken.opening (.login none) :=
      (hreach.ensues hensues).sound.apply_logout hbound
    have hwire : left.wire.waiting = asked.wire.waiting := by
      rw [hlogout]
      rfl
    rw [hwire, hasked, hopened.2.2.1, hopened.2.2.2]
    rfl
  obtain ⟨events, hlate⟩ := hignores [.response ⟨200, ""⟩]
  have hlate : late = { left with
      wire := { left.wire with waiting := left.wire.waiting.drop 1 }
      trace := left.trace ++ events.map .log } := hlate
  refine ⟨hleft, hshows, ?_, ?_, ?_⟩
  · rw [hlate]
  · rw [hlate]
  · rw [hlate, hleft]
    rfl

end Session

end CertDashboard
