import CertDashboard.Proofs.Cookie.Jar
import CertDashboard.Proofs.Session.Neutral

set_option autoImplicit false
set_option relaxedAutoImplicit false

/-!
# The cookies of a session

The session token is removed when the backend no longer accepts it, and when the user logs out.
Nothing else that happens to a live session touches the cookies, apart from replacing them from
outside.

## Main definitions

* `CertDashboard.Session.ShowsLogin` — a login form with its message is on the screen.
* `CertDashboard.Session.Removes` — the actions that remove the session token.
* `CertDashboard.Session.Removed` — what there is of the cookies behind that.

## Main results

* `CertDashboard.Session.Sound.showsLogin_opening` — a login form that is displayed is on the
  screen.
* `CertDashboard.Session.Sound.apply_of_removes` — what removing the session token does.
* `CertDashboard.Session.Reachable.cookies_apply` — the cookies behind one action, in all states of
  a live session.
-/

namespace CertDashboard

namespace Session

/-! ## Login forms on the screen -/

/-- **A login form is on the screen**, with its message if there is one. -/
structure ShowsLogin (p : Nat) (message : Option String) (s : Session) : Prop where
  /-- The form is current, and to be seen. -/
  screen : LoginScreen p s
  /-- It has this message. -/
  body : (s.pages[p]?).map Page.body = some (.login message)
  /-- This was rendered last in its region. -/
  view : (s.renders .loginPanel).getLast? = some (.login message)

/-- **A login form that is made and displayed is on the screen.**

**Proof sketch.** The new page is the last one, and displaying it makes it current with the screen
of a form (`Sound.showing`). Its greeting renders it behind all that was rendered before. -/
theorem Sound.showsLogin_opening {s : Session} (hs : s.Sound) (message : Option String) :
    ShowsLogin s.pages.length message (s.opening (.login message)) := by
  have hnew : (PageBody.login message).IsNew := trivial
  have hmade : (s.addPage (.login message)).2.Sound := hs.quiet (.addPage hnew s)
  have hpage : (s.addPage (.login message)).2.pages[s.pages.length]? = some (.login message) := by
    simp [addPage]
  have hbody : ((s.opening (.login message)).pages[s.pages.length]?).map Page.body =
      some (.login message) := by
    rw [opening, getElem?_showing, hpage, Option.map_some, if_pos rfl]
    rfl
  have hkind : (s.opening (.login message)).kindOf s.pages.length = some .login := by
    rw [opening, kindOf_showing, kindOf, hpage]
    rfl
  refine ⟨(hmade.showing hpage).loginScreen rfl hkind, hbody, ?_⟩
  have htrace : (s.opening (.login message)).trace = (s.trace ++
      [.log (.displayed (s.addPage (.login message)).2.currentKind .login)] ++
        (s.addPage (.login message)).2.farewell ++ [.visible .hamburgerMenu false]) ++
          ([.render .loginPanel (.login message)] ++
            [.bind .loginSubmit (.submit s.pages.length), .visible .loginPanel true]) := by
    simp [opening, Session.showing, greeting, Page.login, Page.fresh, Page.kind, addPage]
  unfold renders
  rw [htrace, List.filterMap_append]
  simp

/-! ## What removes the session token -/

/-- **What removes the session token**: the reply to the dashboard that is current that its session
is not accepted, and the gesture that logs out. -/
inductive Removes (s : Session) : Action → Prop where
  /-- The dashboard that is current asked for the inventory, and is not authorized. -/
  | expiry {request : Api.Request} {response : Api.Response} {p : Nat} :
    s.wire.waiting.head? = some (request, .refresh p) → request.method = .get →
      request.url.path = "/v1/cache" → s.current = some p → s.kindOf p = some .dashboard →
        response.status = 401 → Removes s (.reply (.response response))
  /-- The user logs out, and that is possible. -/
  | logout : s.bindings .logout = some .logout → Removes s (.gesture .logout)

/-- What the login form says that comes to the screen when an action removes the session token. -/
def Action.reason : Action → Option String
  | .reply _ => some sessionExpired
  | _ => none

/-- **The session token was removed**: its cookie is expired, and nothing else was written. -/
structure Removed (s t : Session) : Prop where
  /-- Pages are built from the same. -/
  services : t.services = s.services
  /-- The cookie of the session is expired. -/
  jar : t.jar = s.jar.write (Cookie.expiry s.services.cookie)
  /-- Nothing else was written. -/
  written : t.written = s.written ++ [Cookie.expiry s.services.cookie]

namespace Removed

variable {s t : Session}

/-- Removing the session token, with neutral changes before and behind. -/
theorem of_neutral {u : Session} (h : Neutral s t) (h' : Neutral t.clearToken u) : Removed s u := by
  have htrace : t.clearToken.trace = t.trace ++
      [.log (.tokenCleared t.services.cookie), .cookie (Cookie.expiry t.services.cookie)] := by
    simp [clearToken, writeCookie, log, emit]
  have hjar : t.clearToken.jar = t.jar.write (Cookie.expiry t.services.cookie) := rfl
  refine ⟨h'.services.trans h.services, ?_, ?_⟩
  · rw [h'.jar, hjar, h.jar, h.services]
  · rw [h'.written_eq, written_of_trace htrace, h.written_eq, h.services]
    rfl

/-- If the cookies were pairs, there is no token, and every other name has the value that it
had. -/
theorem token_eq_none (h : Removed s t) {pairs : List (List Char × List Char)}
    (hpairs : ∀ pair ∈ pairs, Cookie.IsPair pair)
    (hraw : s.jar.raw = String.ofList (Cookie.ofPairs pairs)) :
    t.token = none ∧ ∀ name : String, name.toList ≠ Cookie.removed s.services.cookie →
      Cookie.lookup t.jar.raw name = Cookie.lookup s.jar.raw name := by
  have hjar : s.jar = ⟨String.ofList (Cookie.ofPairs pairs)⟩ := by rw [← hraw]
  refine ⟨?_, fun name hname => ?_⟩
  · rw [token, h.services, h.jar, hjar]
    exact Cookie.token_write_expiry hpairs s.services.cookie
  · rw [h.jar, hjar]
    exact Cookie.lookup_write_expiry hpairs s.services.cookie hname

end Removed

namespace Sound

variable {s : Session}

/-- **What removing the session token does**: its cookie is expired, nothing else is written, and a
login form comes to the screen.

**Proof sketch.** Both occasions lead to the same end, a form that is opened behind the cleared
token (`apply_reply_expired`, `apply_logout`). What comes before and after that is neutral, and the
session in between is sound. -/
theorem apply_of_removes (hs : s.Sound) {action : Action} (h : s.Removes action) :
    Removed s (s.apply action) ∧ ShowsLogin s.pages.length action.reason (s.apply action) := by
  cases h with
  | @expiry request response p hwaiting _ _ hp _ hstatus =>
    obtain ⟨rest, hrest⟩ := List.head?_eq_some_iff.mp hwaiting
    have hquiet := quiet_answered (hrest ▸ List.suffix_cons _ _ : rest <:+ s.wire.waiting) request
      (.response response)
    have hneutral := (Neutral.answered rest request (.response response) s).trans
      (.log .sessionExpired _)
    rw [hs.apply_reply_expired hrest hp hstatus]
    refine ⟨.of_neutral hneutral (.opening _ _), ?_⟩
    exact (hs.quiet ((hquiet.trans (.log .sessionExpired _)).trans
      (.clearToken _))).showsLogin_opening _
  | logout hbound =>
    rw [hs.apply_logout hbound]
    refine ⟨.of_neutral (.log .logout s) (.opening _ _), ?_⟩
    exact (hs.quiet ((Quiet.log .logout s).trans (.clearToken _))).showsLogin_opening _

/-- An action that does not remove the session token touches no cookie.

**Proof sketch.** By the passages that an action can be (`Sound.passage`). Neutral ones touch no
cookie, and neither does the one of the first page. The other two remove the token or replace the
jar, against the hypotheses. -/
theorem apply_of_not_removes (hs : s.Sound) {action : Action} (h : action.IsOrdinary)
    (hown : ∀ cookies, action ≠ .setCookies cookies) (hkeeps : ¬ s.Removes action) :
    (s.apply action).jar = s.jar ∧ (s.apply action).written = s.written := by
  have hpassage := hs.passage h
  generalize s.apply action = t at hpassage ⊢
  cases hpassage with
  | neutral hneutral => exact ⟨hneutral.jar, hneutral.written_eq⟩
  | replaced cookies => exact absurd rfl (hown cookies)
  | @first u _ request reply auth _ _ hbefore hafter =>
    obtain ⟨es, htrace, hwritten, -⟩ := trace_wireLogout auth u
    have hwired : (u.wireLogout auth).jar = u.jar ∧ (u.wireLogout auth).written = u.written := by
      refine ⟨by cases auth <;> rfl, ?_⟩
      rw [written_of_trace htrace, hwritten, List.append_nil]
    rw [hafter.jar, hafter.written_eq, hwired.1, hwired.2, hbefore.jar, hbefore.written_eq]
    exact ⟨rfl, rfl⟩
  | @expires u request response p hwaiting hp hstatus _ =>
    obtain ⟨hkind, rfl⟩ : s.Fits request (.refresh p) :=
      hs.waiting (request, .refresh p) (List.mem_of_head? hwaiting)
    exact absurd (.expiry hwaiting rfl (s.services.client.path_request .inventory) hp hkind hstatus)
      hkeeps
  | leaves hbound _ => exact absurd (.logout hbound) hkeeps

end Sound

/-- **The session token is removed on two occasions only**, in all states of a live session: when
the backend answers the dashboard that is current that it is not authorized, and when the user logs
out. Apart from these and from replacing the cookies from outside, no action touches them or writes
anything. On both occasions one assignment is written, which expires the cookie of the session; in
the first case a login form says why. If the cookies are pairs, there is no token then, and every
other name has the value that it had.

**Proof sketch.** A reachable session is sound, so that `Sound.apply_of_not_removes` and
`Sound.apply_of_removes` apply. If the cookies are pairs, then the expiry takes the token out and
leaves the others (`Removed.token_eq_none`). -/
theorem Reachable.cookies_apply {s : Session} (h : Reachable s) {action : Action}
    (haction : action.IsOrdinary) (hown : ∀ cookies, action ≠ .setCookies cookies) :
    (¬ s.Removes action →
      (s.apply action).jar = s.jar ∧ (s.apply action).written = s.written) ∧
    (s.Removes action →
      (s.apply action).written = s.written ++ [Cookie.expiry s.services.cookie] ∧
      (∀ reply, action = .reply reply →
        ∃ p, ShowsLogin p (some "Your session has expired") (s.apply action)) ∧
      ∀ pairs : List (List Char × List Char), (∀ pair ∈ pairs, Cookie.IsPair pair) →
        s.jar.raw = String.ofList (Cookie.ofPairs pairs) →
          (s.apply action).token = none ∧
          ∀ name : String, name.toList ≠ Cookie.removed s.services.cookie →
            Cookie.lookup (s.apply action).jar.raw name = Cookie.lookup s.jar.raw name) := by
  have hs := h.sound
  refine ⟨hs.apply_of_not_removes haction hown, fun hremoves => ?_⟩
  obtain ⟨hremoved, hshows⟩ := hs.apply_of_removes hremoves
  refine ⟨hremoved.written, ?_, fun pairs hpairs hraw => hremoved.token_eq_none hpairs hraw⟩
  rintro reply rfl
  exact ⟨_, hshows⟩

/-- A dashboard that is current, with a token among the cookies: a failure of the backend leaves
them alone, and when it no longer accepts the session the token is gone and the other cookie is not.

**Proof sketch.** The session with an opened dashboard is computed. A status of 500 is no reason to
remove the token, and one of 401 is, so `Reachable.cookies_apply` is applied with either half. -/
theorem cookies_apply_expired :
    let opened := (start standardServices 0 "theme=dark; doomsday-token=abc" []).apply
      (.present (.dashboard ⟨none, none, none⟩) [])
    let failed := opened.apply (.reply (.response ⟨500, ""⟩))
    let expired := opened.apply (.reply (.response ⟨401, ""⟩))
    failed.jar = ⟨"theme=dark; doomsday-token=abc"⟩ ∧ expired.token = none ∧
      Cookie.lookup expired.jar.raw "theme" = some "dark" ∧
      ∃ p, ShowsLogin p (some "Your session has expired") expired := by
  intro opened failed expired
  have hnew : (PageBody.dashboard ⟨none, none, none⟩).IsNew := rfl
  have hbegun : Reachable (start standardServices 0 "theme=dark; doomsday-token=abc" []) :=
    .begin (.blank _ _ _)
  have hreach : Reachable opened := .step _ ⟨hnew, rfl⟩ hbegun
  have hopened : opened = (start standardServices 0 "theme=dark; doomsday-token=abc" []).opening
      .dashboard := hbegun.sound.apply_present hnew
  have hjar : opened.jar = ⟨"theme=dark; doomsday-token=abc"⟩ := by
    rw [hopened]
    rfl
  have hservices : opened.services = standardServices := by
    rw [hopened]
    rfl
  have hkeeps : ¬ opened.Removes (.reply (.response ⟨500, ""⟩)) := by
    intro h
    cases h with
    | expiry _ _ _ _ _ hstatus => exact absurd hstatus (by decide)
  have hremoves : opened.Removes (.reply (.response ⟨401, ""⟩)) := by
    rw [hopened]
    exact .expiry rfl rfl (standardServices.client.path_request .inventory) rfl rfl rfl
  have hpairs : ∀ pair ∈ [("theme".toList, "dark".toList), ("doomsday-token".toList, "abc".toList)],
      Cookie.IsPair pair := by
    intro pair hpair
    simp only [List.mem_cons, List.not_mem_nil, or_false] at hpair
    rcases hpair with rfl | rfl
    · refine ⟨⟨by decide, by decide, fun c hc => ?_⟩, by decide⟩
      obtain rfl : 't' = c := Option.some.inj hc
      decide
    · refine ⟨⟨by decide, by decide, fun c hc => ?_⟩, by decide⟩
      obtain rfl : 'd' = c := Option.some.inj hc
      decide
  have hraw : opened.jar.raw = String.ofList (Cookie.ofPairs
      [("theme".toList, "dark".toList), ("doomsday-token".toList, "abc".toList)]) := by
    rw [hjar]
    decide
  have hother : "theme".toList ≠ Cookie.removed opened.services.cookie := by
    rw [hservices]
    decide
  have hordinary : ∀ reply, (Action.reply reply).IsOrdinary := fun _ => trivial
  obtain ⟨hfailed, -⟩ := (hreach.cookies_apply (hordinary (.response ⟨500, ""⟩)) nofun).1 hkeeps
  obtain ⟨-, hshows, htoken⟩ :=
    (hreach.cookies_apply (hordinary (.response ⟨401, ""⟩)) nofun).2 hremoves
  obtain ⟨hnone, hlookup⟩ := htoken _ hpairs hraw
  refine ⟨hfailed.trans hjar, hnone, ?_, hshows _ rfl⟩
  rw [hlookup "theme" hother, hjar]
  decide

end Session

end CertDashboard
