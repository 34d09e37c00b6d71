import CertDashboard.Proofs.Session.Calm

set_option autoImplicit false
set_option relaxedAutoImplicit false

/-!
# What one action does, and why

## Main definitions

* `CertDashboard.Session.Admits` — the replies that a dashboard comes to the screen behind.
* `CertDashboard.Session.Turn`, `CertDashboard.Session.turn?` — what changes the picture of a
  dashboard: an inventory, or another horizon.
* `CertDashboard.Session.Deed` — what one action does, and why.

## Main results

* `CertDashboard.Session.Sound.deed` — ordinary actions do nothing else.

## Design

`Outcome` says what may come of an action, and is all that the invariant needs. Here the action is
known, and each case says why it happens: which reply lets a dashboard come to the screen, and which
one turns its picture.
-/

namespace CertDashboard

namespace Api

/-! ## Replies -/

/-- Whether a reply reports success. -/
def Reply.IsSuccess (reply : Reply) : Prop :=
  ∃ response, reply = .response response ∧ isSuccess response.status = true

/-- **Whether a reply says how users prove who they are**: it reports success, and what it says can
be read. -/
def Reply.Names (given : Option String) (reply : Reply) : Prop :=
  ∃ response, reply = .response response ∧ isSuccess response.status = true ∧
    Json.decode infoRecord.decoder response.body.toList = .ok given

/-- How users prove who they are is known if and only if a reply says so. -/
theorem authMethodOf_eq_ok_iff (reply : Reply) (auth : AuthMethod) :
    authMethodOf reply = .ok auth ↔ ∃ given, reply.Names given ∧ AuthMethod.ofName given = auth := by
  cases reply with
  | failed reason => simp [authMethodOf, Reply.body, Reply.Names, Except.bind, collapse]
  | response r =>
    by_cases hsuccess : isSuccess r.status = true
    · rcases hdecode : Json.decode infoRecord.decoder r.body.toList with fault | given
      · simp [authMethodOf, Reply.body, Reply.Names, Except.bind, collapse, hsuccess, decoded,
          authMethodOfText, hdecode, Except.map]
      · simp [authMethodOf, Reply.body, Reply.Names, Except.bind, collapse, hsuccess, decoded,
          authMethodOfText, hdecode, Except.map]
    · simp [authMethodOf, Reply.body, Reply.Names, Except.bind, collapse, hsuccess]

/-- A login succeeds if and only if its reply reports success. -/
theorem loginOf_eq_ok_iff (reply : Reply) (u : Unit) : loginOf reply = .ok u ↔ reply.IsSuccess := by
  cases reply with
  | failed reason => simp [loginOf, Reply.body, Reply.IsSuccess, Except.map, collapse]
  | response r =>
    by_cases hsuccess : isSuccess r.status = true
    · simp [loginOf, Reply.body, Reply.IsSuccess, Except.map, collapse, hsuccess]
    · simp [loginOf, Reply.body, Reply.IsSuccess, Except.map, collapse, hsuccess]

end Api

/-- There is a session token if and only if the cookie has a value that is not empty. -/
theorem Cookie.isSome_token_iff (cookies name : String) :
    (Cookie.token cookies name).isSome = true ↔
      ∃ value, Cookie.lookup cookies name = some value ∧ value ≠ "" := by
  unfold Cookie.token
  rcases Cookie.lookup cookies name with _ | value <;> simp

namespace Session

/-! ## Causes -/

/-- **What happens to a session in which nobody displays a page from outside**: the user types and
makes gestures, replies come, timers are up, the clock moves and cookies are replaced. -/
def Action.IsUnprompted : Action → Prop
  | .type _ | .gesture _ | .reply _ | .elapse | .setClock _ | .setCookies _ => True
  | .keep _ _ | .present _ _ | .hold | .display _ | .activate _ | .teardown _ | .giveContext _
  | .drop _ | .close | .replay _ | .script _ | .fire _ => False

/-- It may happen to any live session. -/
theorem Action.IsUnprompted.isOrdinary {action : Action} (h : action.IsUnprompted) :
    action.IsOrdinary := by
  cases action <;> first | exact trivial | exact h.elim

/-- **The replies that a dashboard comes to the screen behind.** -/
inductive Admits (s : Session) : Action → Prop where
  /-- The reply that the first page depends on: users have not to prove who they are, or there is a
  session token. -/
  | first {request : Api.Request} {reply : Api.Reply} {given : Option String} :
    s.wire.waiting.head? = some (request, .firstPage) → request.method = .get →
      request.url.path = "/v1/info" → reply.Names given →
        (given ≠ some "Userpass" ∨
          ∃ value, Cookie.lookup s.jar.raw s.services.cookie = some value ∧ value ≠ "") →
          Admits s (.reply reply)
  /-- The reply to a login from the form that is current, which reports success. -/
  | login {request : Api.Request} {reply : Api.Reply} {p : Nat} :
    s.wire.waiting.head? = some (request, .login p) → request.method = .post →
      request.url.path = "/v1/auth" → s.current = some p → s.kindOf p = some .login →
        reply.IsSuccess → Admits s (.reply reply)

/-- **What turns the picture of a dashboard**, and when. -/
inductive Turn where
  /-- An inventory comes. -/
  | inventory (now : Int64) (certificates : List Certificate)
  /-- The horizon is changed for the other one. -/
  | toggle (now : Int64)
  deriving DecidableEq

/-- **How an action turns the picture of a page**, if it does: a reply brings an inventory that the
page asked for, or the gesture that changes the horizon is made while it is bound to the page. -/
def turn? (p : Nat) (action : Action) (s : Session) : Option Turn :=
  match action with
  | .reply reply =>
    match s.wire.waiting.head?, Api.inventoryOf reply with
    | some (_, .refresh q), .ok certificates =>
      if q = p then some (.inventory s.now certificates) else none
    | _, _ => none
  | .gesture .toggleHorizon =>
    if s.bindings .toggleHorizon = some (.toggle p) then some (.toggle s.now) else none
  | _ => none

/-- A reply to another request turns no picture of a page. -/
theorem turn?_reply_of_ne {s : Session} {request : Api.Request} {purpose : Purpose}
    {rest : List (Api.Request × Purpose)} (h : s.wire.waiting = (request, purpose) :: rest)
    {p : Nat} (hp : purpose ≠ .refresh p) (reply : Api.Reply) :
    s.turn? p (.reply reply) = none := by
  cases purpose with
  | firstPage => simp [turn?, h]
  | login q => simp [turn?, h]
  | refresh q =>
    have hq : q ≠ p := fun heq => hp (congrArg Purpose.refresh heq)
    rcases hinventory : Api.inventoryOf reply with e | certificates
    · simp [turn?, h, hinventory]
    · simp [turn?, h, hinventory, hq]

/-! ## Deeds -/

/-- **What one action does, and why.** -/
inductive Deed (s : Session) (action : Action) : Session → Prop where
  /-- A calm change; the picture of the current page is not turned. -/
  | rests {t : Session} : Calm s t → (∀ p, s.current = some p → s.turn? p action = none) →
    Deed s action t
  /-- A page is displayed. If it is a dashboard, a reply lets it, or it is displayed from
  outside. -/
  | shows {t u : Session} {p : Nat} {page : Page} : Calm s t → t.pages[p]? = some page →
    (page.kind = .dashboard → action.IsUnprompted → s.Admits action) →
      Calm (t.showing p page) u → Deed s action u
  /-- The login form that is current is submitted. -/
  | submits {t : Session} {p : Nat} (credentials : Api.Credentials) :
    action = .gesture .loginSubmit → Calm s t → s.current = some p → s.kindOf p = some .login →
      Deed s action (t.asking (.login p) (.login credentials))
  /-- The horizon of the dashboard that is current is changed. -/
  | toggles {p : Nat} : action = .gesture .toggleHorizon → s.current = some p →
    s.kindOf p = some .dashboard → Deed s action (s.toggle p)
  /-- The inventory comes to the dashboard that is current. -/
  | refreshes {t : Session} {p : Nat} {certificates : List Certificate} :
    s.turn? p action = some (.inventory s.now certificates) → s.current = some p →
      s.kindOf p = some .dashboard → Calm s t → t.now = s.now →
        Deed s action (t.refreshed p certificates)
  /-- The timer of the dashboard that is current is up. -/
  | elapses {p : Nat} {callbacks : List Callback} : action = .elapse → s.current = some p →
    s.kindOf p = some .dashboard →
      Deed s action ((s.withTimer p none callbacks).asking (.refresh p) .inventory)

namespace Sound

variable {s t : Session}

/-- Making a page and displaying it is a deed. -/
theorem deed_displayNew (hs : s.Sound) (h : Calm s t) {page : Page} (hpage : page.IsFresh)
    {action : Action} (hadmits : page.kind = .dashboard → action.IsUnprompted → s.Admits action) :
    Deed s action (finish (t.displayNew page)) := by
  rw [(hs.quiet h.quiet).run_displayNew hpage]
  exact .shows (h.trans (.addPage hpage t)) (by simp [addPage]) hadmits (.refl _)

/-- A login form that was just made needs no reply that lets it. -/
theorem deed_login (hs : s.Sound) (h : Calm s t) (message : Option String) (action : Action) :
    Deed s action (finish (t.displayNew (.login message))) :=
  hs.deed_displayNew h (isFresh_login message) nofun

/-- If it is a dashboard, users have not to prove who they are or there is a session token. -/
theorem of_kind_firstPage {auth : Api.AuthMethod} {hasToken : Bool}
    (h : (firstPage auth hasToken).kind = .dashboard) : auth ≠ .userpass ∨ hasToken = true := by
  unfold firstPage at h
  split at h
  · exact absurd h (by simp [Page.login, Page.fresh, Page.kind])
  · next hopen =>
    rcases not_and_or.mp hopen with hauth | htoken
    · exact .inl hauth
    · exact .inr (by simpa using htoken)

/-- **The reply that the first page depends on** is a deed: a dashboard comes to the screen only if
users have not to prove who they are or there is a session token.

**Proof sketch.** The reply is settled as the first page, in a session that has changed calmly. An
error is only reported. Otherwise a page is made and displayed (`finish_settleFirst`), and if that
is a dashboard, then by the choice of the first page (`of_kind_firstPage`) either the reply does not
ask for users or there was a token. -/
theorem deed_firstPage (hs : s.Sound) {request : Api.Request}
    {rest : List (Api.Request × Purpose)} (hwaiting : s.wire.waiting = (request, .firstPage) :: rest)
    (reply : Api.Reply) : Deed s (.reply reply) (s.apply (.reply reply)) := by
  have hcalm : Calm s (s.answered rest request reply) :=
    .answered (hwaiting ▸ List.suffix_cons _ _) request reply
  have htoken : (s.answered rest request reply).token = s.token := rfl
  have hturn : ∀ p, s.current = some p → s.turn? p (.reply reply) = none := fun p _ =>
    turn?_reply_of_ne hwaiting (by simp) reply
  obtain rfl : request = s.services.client.request .authMethod :=
    hs.waiting (request, .firstPage) (hwaiting ▸ List.mem_cons_self)
  rw [hs.apply_reply hwaiting]
  generalize s.answered rest _ reply = u at hcalm htoken ⊢
  simp only [settlement]
  rcases hauth : Api.authMethodOf reply with e | auth
  · simp only [settleFirst, finish, run_nil]
    exact .rests ((hcalm.trans (.log _ u)).trans (.emit ⟨fun _ => rfl, rfl⟩ rfl rfl _)) hturn
  · obtain ⟨event, heq⟩ := (hs.quiet hcalm.quiet).finish_settleFirst auth
    rw [heq]
    have hwired := (hcalm.trans (.wireLogout auth u)).trans (.log event _)
    refine .shows (hwired.trans (.addPage (isFresh_firstPage auth u.token.isSome) _))
      (by simp [addPage]) (fun hkind _ => ?_) (.emit ⟨fun _ => rfl, rfl⟩ rfl rfl _)
    obtain ⟨given, hnames, hgiven⟩ := (Api.authMethodOf_eq_ok_iff reply auth).mp hauth
    refine .first (List.head?_eq_some_iff.mpr ⟨rest, hwaiting⟩) rfl
      (s.services.client.path_request .authMethod) hnames ?_
    rcases of_kind_firstPage hkind with hauth | htokens
    · refine .inl fun heq => hauth ?_
      rw [← hgiven, heq]
      rfl
    · rw [htoken] at htokens
      exact .inr ((Cookie.isSome_token_iff _ _).mp htokens)

/-- **The reply to a login** is a deed: a dashboard comes to the screen only if the form is current
and the reply reports success.

**Proof sketch.** By whether the form is current and what the reply says. A dashboard is displayed
only if the login succeeded, that is, if the reply reports success (`Api.loginOf_eq_ok_iff`); a
failure displays a form. -/
theorem deed_reply_login (hs : s.Sound) {request : Api.Request} {p : Nat}
    {rest : List (Api.Request × Purpose)} (hwaiting : s.wire.waiting = (request, .login p) :: rest)
    (reply : Api.Reply) : Deed s (.reply reply) (s.apply (.reply reply)) := by
  have hcalm : Calm s (s.answered rest request reply) :=
    .answered (hwaiting ▸ List.suffix_cons _ _) request reply
  obtain ⟨hkind, credentials, rfl⟩ : s.Fits request (.login p) :=
    hs.waiting (request, .login p) (hwaiting ▸ List.mem_cons_self)
  rw [hs.apply_reply hwaiting]
  generalize s.answered rest _ reply = u at hcalm ⊢
  have hlogged : ∀ event, Calm s (u.log event) := fun event => hcalm.trans (.log event u)
  simp only [settlement]
  split
  · next hp =>
    unfold settleLogin
    split
    · next hok =>
      refine hs.deed_displayNew (hlogged _) isFresh_dashboard fun _ _ => ?_
      exact .login (List.head?_eq_some_iff.mpr ⟨rest, hwaiting⟩) rfl
        (s.services.client.path_request (.login credentials)) (hcalm.quiet.current_eq ▸ hp) hkind
        ((Api.loginOf_eq_ok_iff reply ()).mp hok)
    · split
      · exact hs.deed_login (hlogged _) _ _
      · exact hs.deed_login (hlogged _) _ _
  · simp only [finish, run_nil]
    exact .rests (hlogged _) fun q _ => turn?_reply_of_ne hwaiting (by simp) reply

/-- **The reply to a refresh** is a deed: the inventory comes to the current page, or a login form
is displayed, or nothing happens.

**Proof sketch.** By whether the dashboard is current and what the reply says. An inventory is the
deed of a refresh, and an error displays a form, with the token cleared before that if the session
has ended. -/
theorem deed_reply_refresh (hs : s.Sound) {request : Api.Request} {p : Nat}
    {rest : List (Api.Request × Purpose)}
    (hwaiting : s.wire.waiting = (request, .refresh p) :: rest) (reply : Api.Reply) :
    Deed s (.reply reply) (s.apply (.reply reply)) := by
  have hcalm : Calm s (s.answered rest request reply) :=
    .answered (hwaiting ▸ List.suffix_cons _ _) request reply
  have hnow : (s.answered rest request reply).now = s.now := rfl
  obtain ⟨hkind, -⟩ : s.Fits request (.refresh p) :=
    hs.waiting (request, .refresh p) (hwaiting ▸ List.mem_cons_self)
  rw [hs.apply_reply hwaiting]
  generalize s.answered rest _ reply = u at hcalm hnow ⊢
  have hlogged : ∀ event, Calm s (u.log event) := fun event => hcalm.trans (.log event u)
  simp only [settlement]
  split
  · next hp =>
    have hp : s.current = some p := hcalm.quiet.current_eq ▸ hp
    unfold settleRefresh
    split
    · next certificates hok =>
      simp only [finish, run_nil]
      exact .refreshes (by simp [turn?, hwaiting, hok]) hp hkind (hlogged _) hnow
    · split
      · exact hs.deed_login ((hlogged _).trans (.clearToken _)) _ _
      · exact hs.deed_login (hlogged _) _ _
  · next hp =>
    simp only [finish, run_nil]
    refine .rests (hlogged _) fun q hq => turn?_reply_of_ne hwaiting ?_ reply
    intro heq
    rw [hcalm.quiet.current_eq, Purpose.refresh.inj heq] at hp
    exact hp hq

/-- What changes the horizon of a page is the gesture for that, with the dashboard that is
current.

**Proof sketch.** By the gesture and by what is on the screen, which says what is bound to two of
the three gestures. Only a dashboard on the screen binds this one, to itself; what logs out is never
bound to a page. -/
theorem of_bound_toggle (hs : s.Sound) {g : Gesture} {p : Nat}
    (h : s.bindings g = some (.toggle p)) :
    g = .toggleHorizon ∧ s.current = some p ∧ s.kindOf p = some .dashboard := by
  cases g with
  | loginSubmit =>
    cases hs.screen with
    | blank b => exact absurd (b.submit.symm.trans h) (by simp)
    | login q l => exact absurd (l.submit.symm.trans h) (by simp)
    | dashboard q d => exact absurd (d.submit.symm.trans h) (by simp)
  | toggleHorizon =>
    cases hs.screen with
    | blank b => exact absurd (b.toggle.symm.trans h) (by simp)
    | login q l => exact absurd (l.toggle.symm.trans h) (by simp)
    | dashboard q d =>
      obtain rfl : q = p := by simpa using d.toggle.symm.trans h
      exact ⟨rfl, d.current, d.kind⟩
  | logout => exact absurd (hs.logout _ h) (by simp)

/-- **A gesture** is a deed.

**Proof sketch.** By the handler that is bound. A submission and a change of the horizon are deeds
of their own, with the page that is current (`of_bound_submit`, `of_bound_toggle`); logging out
displays a form. -/
theorem deed_gesture (hs : s.Sound) (g : Gesture) :
    Deed s (.gesture g) (s.apply (.gesture g)) := by
  rcases hbound : s.bindings g with _ | handler
  · have hrest : s.apply (.gesture g) = s := by simp [apply, begin, hbound]
    rw [hrest]
    refine .rests (.refl s) fun p _ => ?_
    cases g <;> simp [turn?, hbound]
  · rw [apply_gesture hbound]
    cases handler with
    | submit p =>
      obtain ⟨rfl, hp, hkind⟩ := hs.of_bound_submit hbound
      rw [handle, hs.finish_submit hp]
      exact .submits s.form rfl (.cleared s) hp hkind
    | toggle p =>
      obtain ⟨rfl, hp, hkind⟩ := hs.of_bound_toggle hbound
      simp only [handle, finish, run_nil]
      exact .toggles rfl hp hkind
    | logout => exact hs.deed_login ((Calm.log .logout s).trans (.clearToken _)) _ _

/-- **Ordinary actions do nothing else.**

**Proof sketch.** By the kinds of actions. Replies go by what they answer (`deed_firstPage`,
`deed_reply_login`, `deed_reply_refresh`), gestures have their lemma, and a timer that is up is one
of the current dashboard (`apply_elapse`). A display shows its page, and whatever else is ordinary
rests. -/
theorem deed (hs : s.Sound) {action : Action} (h : action.IsOrdinary) :
    Deed s action (s.apply action) := by
  cases action with
  | keep body plans =>
    obtain ⟨hbody, rfl⟩ := h
    simp only [apply, begin, make_nil, run_nil]
    exact .rests ((Calm.addPage ⟨body, hbody, rfl⟩ s).trans
      (.of_quiet (.of_core rfl rfl rfl rfl) rfl rfl)) fun _ _ => rfl
  | present body plans =>
    obtain ⟨hbody, rfl⟩ := h
    rw [hs.apply_present hbody]
    exact .shows (.addPage ⟨body, hbody, rfl⟩ s) (by simp [addPage]) (fun _ h => h.elim) (.refl _)
  | hold =>
    simp only [apply, begin, run_nil]
    exact .rests (.of_quiet (.of_core rfl rfl rfl rfl) rfl rfl) fun _ _ => rfl
  | display place =>
    rcases hs.apply_display_cases place with heq | ⟨p, page, hpage, heq⟩
    · rw [heq]
      exact .rests (.refl s) fun _ _ => rfl
    · rw [heq]
      exact .shows (.refl s) hpage (fun _ h => h.elim) (.refl _)
  | drop place =>
    simp only [apply, begin, run_nil]
    exact .rests (.of_quiet (.of_core rfl rfl rfl rfl) rfl rfl) fun _ _ => rfl
  | type credentials =>
    simp only [apply, begin, run_nil]
    exact .rests (.of_quiet (.of_core rfl rfl rfl rfl) rfl rfl) fun _ _ => rfl
  | gesture g => exact hs.deed_gesture g
  | reply reply =>
    rcases hwaiting : s.wire.waiting with _ | ⟨⟨request, purpose⟩, rest⟩
    · rw [apply_reply_nil hwaiting]
      exact .rests (.refl s) fun p _ => by simp [turn?, hwaiting]
    · cases purpose with
      | firstPage => exact hs.deed_firstPage hwaiting reply
      | login p => exact hs.deed_reply_login hwaiting reply
      | refresh p => exact hs.deed_reply_refresh hwaiting reply
  | elapse =>
    rcases hs.apply_elapse with ⟨-, heq⟩ | ⟨p, k, hp, hkind, -, heq⟩
    · rw [heq]
      exact .rests (.refl s) fun _ _ => rfl
    · rw [heq]
      exact .elapses rfl hp hkind
  | setClock now =>
    simp only [apply, begin, run_nil]
    exact .rests (.of_quiet (.of_core rfl rfl rfl rfl) rfl rfl) fun _ _ => rfl
  | setCookies cookies =>
    simp only [apply, begin, run_nil]
    exact .rests (.of_quiet (.of_core rfl rfl rfl rfl) rfl rfl) fun _ _ => rfl
  | activate place => exact h.elim
  | teardown place => exact h.elim
  | giveContext place => exact h.elim
  | close => exact h.elim
  | replay n => exact h.elim
  | script replies => exact h.elim
  | fire n => exact h.elim

end Sound

end Session

end CertDashboard
