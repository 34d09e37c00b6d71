import CertDashboard.Proofs.Session.Waiting

set_option autoImplicit false
set_option relaxedAutoImplicit false

/-!
# What one action comes to

## Main definitions

* `CertDashboard.Session.answered` — the session in which a reply is settled.
* `CertDashboard.Session.opening` — the session behind the display of a page that was just made.
* `CertDashboard.Session.Outcome` — what an ordinary action comes to.

## Main results

* `CertDashboard.Session.Sound.apply_reply` — a reply is settled by what its request was for.
* `CertDashboard.Session.Sound.apply_outcome` — these outcomes are all there are.
* `CertDashboard.Session.Sound.of_outcome`, `CertDashboard.Session.Reachable.sound` — all states of
  a live session are sound.

## Design

Whatever is proved about all states of a live session is proved by the cases of `Outcome`. No such
proof has to open a task, and what changes in one of them changes its case alone.
-/

namespace CertDashboard

namespace Session

/-- The requests of a page for the inventory that wait. -/
def polls (p : Nat) (s : Session) : Nat :=
  s.wire.waiting.countP fun e => decide (e.2 = .refresh p)

/-- **What an ordinary action comes to.** -/
inductive Outcome (s : Session) : Session → Prop where
  /-- A quiet change; the oldest request may be gone, but not one for the inventory of the current
  page. -/
  | rests {t : Session} : Quiet s t → (∀ p, s.current = some p → t.polls p = s.polls p) →
    Outcome s t
  /-- A page is displayed; the oldest request may be gone. -/
  | shows {t u : Session} {p : Nat} {page : Page} : Quiet s t → t.pages[p]? = some page →
    Quiet (t.showing p page) u → u.wire.waiting = (t.showing p page).wire.waiting → Outcome s u
  /-- The login form that is current is submitted. -/
  | submits {t : Session} {p : Nat} (credentials : Api.Credentials) : Quiet s t →
    t.wire.waiting = s.wire.waiting → s.current = some p → s.kindOf p = some .login →
      Outcome s (t.asking (.login p) (.login credentials))
  /-- The inventory comes to the dashboard that is current; its next refresh is due. -/
  | refreshes {t : Session} {p n : Nat} {callbacks : List Callback} (request : Api.Request) :
    Quiet s t → s.wire.waiting = (request, .refresh p) :: t.wire.waiting → s.current = some p →
      s.kindOf p = some .dashboard → callbacks[n]? = some ⟨p, false⟩ →
        Outcome s (t.withTimer p (some (n + 1)) callbacks)
  /-- The timer of the dashboard that is current is up; it asks for the inventory. -/
  | elapses {p n : Nat} {callbacks : List Callback} : s.current = some p →
    s.kindOf p = some .dashboard → s.timerOf p = some n →
      Outcome s ((s.withTimer p none callbacks).asking (.refresh p) .inventory)

/-- A state behind all that is left to do in it. -/
def finish (r : Session × List Task) : Session :=
  r.1.run r.2

/-! ## Pages that were just made -/

/-- **The session behind the display of a page that was just made.** -/
def opening (page : Page) (s : Session) : Session :=
  (s.addPage page).2.showing s.pages.length page

/-- Making a page and displaying it leads to the session behind that. -/
theorem Sound.run_displayNew {s : Session} (hs : s.Sound) {page : Page} (hpage : page.IsFresh) :
    finish (s.displayNew page) = s.opening page := by
  obtain ⟨body, hbody, rfl⟩ := hpage
  exact (hs.quiet (.addPage hbody s)).run_display (by simp [addPage])

/-- A page that was just made is displayed, and nothing but a quiet change follows. -/
theorem Outcome.opens {s t u : Session} (h : Quiet s t) {page : Page} (hpage : page.IsFresh)
    (hquiet : Quiet (t.opening page) u)
    (hwaiting : u.wire.waiting = (t.opening page).wire.waiting) : Outcome s u := by
  obtain ⟨body, hbody, rfl⟩ := hpage
  exact .shows (h.trans (.addPage hbody t)) (by simp [addPage]) hquiet hwaiting

/-- Making a page and displaying it is an outcome. -/
theorem Sound.outcome_displayNew {s t : Session} (hs : s.Sound) (h : Quiet s t) {page : Page}
    (hpage : page.IsFresh) : Outcome s (finish (t.displayNew page)) := by
  rw [(hs.quiet h).run_displayNew hpage]
  exact .opens h hpage (.refl _) rfl

/-- A login form that was just made. -/
theorem isFresh_login (message : Option String) : (Page.login message).IsFresh :=
  ⟨.login message, trivial, rfl⟩

/-- A dashboard that was just made. -/
theorem isFresh_dashboard : Page.dashboard.IsFresh :=
  ⟨.dashboard ⟨none, none, none⟩, rfl, rfl⟩

/-- The page to start with was just made. -/
theorem isFresh_firstPage (auth : Api.AuthMethod) (hasToken : Bool) :
    (firstPage auth hasToken).IsFresh := by
  unfold firstPage
  split
  · exact isFresh_login none
  · exact isFresh_dashboard

/-! ## The login form -/

/-- The login form as it is when its credentials are sent: the password is gone. -/
def cleared (s : Session) : Session :=
  ({ s with form := { s.form with password := "" } }.emit .clearPassword).log .loginAttempt

/-- Clearing the login form is a quiet change. -/
theorem quiet_cleared (s : Session) : Quiet s s.cleared := by
  have hform : Quiet s { s with form := { s.form with password := "" } } :=
    .of_core rfl rfl rfl rfl
  exact (hform.trans (.emit (e := .clearPassword) ⟨fun _ => rfl, rfl⟩ _)).trans
    (.log .loginAttempt _)

/-! ## Replies -/

/-- **The session in which a reply is settled**: its request waits no longer, and what the client
logs about the reply is logged. -/
def answered (rest : List (Api.Request × Purpose)) (request : Api.Request) (reply : Api.Reply)
    (s : Session) : Session := { s with
  wire := { s.wire with waiting := rest }
  trace := s.trace ++ (request.replyEvents reply).map .log }

/-- The answer to a request is a quiet change. -/
theorem quiet_answered {s : Session} {rest : List (Api.Request × Purpose)}
    (h : rest <:+ s.wire.waiting) (request : Api.Request) (reply : Api.Reply) :
    Quiet s (s.answered rest request reply) := by
  have hcore := core_foldl_log (request.replyEvents reply) { s with
    wire := { s.wire with waiting := rest } }
  rw [foldl_log] at hcore
  exact ⟨hcore, ⟨[], by simp [answered]⟩, h, .inl rfl⟩

/-- What a reply comes to, by what its request was for: only the current page settles it. -/
def settlement (purpose : Purpose) (reply : Api.Reply) (s : Session) : Session × List Task :=
  match purpose with
  | .firstPage => s.settleFirst (Api.authMethodOf reply)
  | .login p =>
    if s.current = some p then s.settleLogin (Api.loginOf reply) else (s.log .staleLogin, [])
  | .refresh p =>
    if s.current = some p then s.settleRefresh p (Api.inventoryOf reply)
    else (s.log .staleRefresh, [])

/-- Without requests that wait, a reply is for nobody. -/
theorem apply_reply_nil {s : Session} (h : s.wire.waiting = []) (reply : Api.Reply) :
    s.apply (.reply reply) = s := by
  simp [apply, begin, Api.Wire.pop?, h]

/-- Making a page that plans nothing adds it. -/
theorem make_nil (body : PageBody) (s : Session) : s.make body [] = s.addPage (.fresh body) := by
  simp [make, addPage]

namespace Sound

variable {s t : Session}

/-- **A reply is settled by what its request was for**, and on the current page only. -/
theorem apply_reply (hs : s.Sound) {request : Api.Request} {purpose : Purpose}
    {rest : List (Api.Request × Purpose)} (h : s.wire.waiting = (request, purpose) :: rest)
    (reply : Api.Reply) :
    s.apply (.reply reply) = finish ((s.answered rest request reply).settlement purpose reply) := by
  have hsuffix : rest <:+ s.wire.waiting := h ▸ List.suffix_cons _ _
  have hactive := (hs.quiet (quiet_answered hsuffix request reply)).isSome_active?_iff
  have hpop : s.wire.pop? = some ((request, purpose), { s.wire with waiting := rest }) := by
    simp [Api.Wire.pop?, h]
  simp only [apply, begin, hpop, run_cons, List.append_nil, perform, settle, foldl_log, finish,
    settlement]
  cases purpose with
  | firstPage => rfl
  | login p => simp only [← hactive p]; rfl
  | refresh p => simp only [← hactive p]; rfl

/-- The answer of the first request displays a page that was just made, and reports that the program
is ready. -/
theorem finish_settleFirst (hs : s.Sound) (auth : Api.AuthMethod) : ∃ event,
    finish (s.settleFirst (.ok auth)) = (((s.wireLogout auth).log event).opening
      (firstPage auth s.token.isSome)).emit (.ready (.ok auth)) := by
  have htoken : (s.wireLogout auth).token = s.token := by cases auth <;> rfl
  have hfresh := isFresh_firstPage auth s.token.isSome
  have hquiet := (Quiet.wireLogout auth s).trans
    (.log (.firstPage auth s.token.isSome (firstPage auth s.token.isSome).kind) _)
  have hrun := (hs.quiet hquiet).run_displayNew hfresh
  refine ⟨.firstPage auth s.token.isSome (firstPage auth s.token.isSome).kind, ?_⟩
  unfold finish at hrun
  simp only [settleFirst, hs.alive, if_true, finish, run_append, htoken]
  rw [hrun, run_cons]
  simp only [perform, List.append_nil, run_nil]

/-- The answer of the first request is an outcome. -/
theorem outcome_settleFirst (hs : s.Sound) (h : Quiet s t)
    (hpolls : ∀ p, s.current = some p → t.polls p = s.polls p)
    (r : Except Api.Error Api.AuthMethod) : Outcome s (finish (t.settleFirst r)) := by
  cases r with
  | error e =>
    simp only [settleFirst, finish, run_nil]
    exact .rests ((h.trans (.log _ t)).trans (.emit ⟨fun _ => rfl, rfl⟩ _)) hpolls
  | ok auth =>
    obtain ⟨event, heq⟩ := (hs.quiet h).finish_settleFirst auth
    rw [heq]
    exact .opens ((h.trans (.wireLogout auth t)).trans (.log event _))
      (isFresh_firstPage auth t.token.isSome) (.emit ⟨fun _ => rfl, rfl⟩ _) rfl

/-- The answer of a login displays a page that was just made, whatever it is. -/
theorem finish_settleLogin (hs : s.Sound) (r : Except Api.Error Unit) :
    ∃ event page, page.IsFresh ∧ finish (s.settleLogin r) = (s.log event).opening page := by
  have hopens : ∀ {event : Log.Event} {page : Page}, page.IsFresh →
      ∃ e new, new.IsFresh ∧ finish ((s.log event).displayNew page) = (s.log e).opening new :=
    fun hpage => ⟨_, _, hpage, (hs.quiet (.log _ s)).run_displayNew hpage⟩
  unfold settleLogin
  split
  · exact hopens isFresh_dashboard
  · split
    · exact hopens (isFresh_login _)
    · exact hopens (isFresh_login _)

/-- The answer of a refresh is an outcome.

**Proof sketch.** With an inventory the dashboard is rendered into a region that is visible, and
this is a quiet change. What is left is the timer that is set (`schedule_eq`), behind one that may
be cancelled. With an error a login form is opened, and the token is cleared before that if the
status is the one for a session that has ended. -/
theorem outcome_settleRefresh (hs : s.Sound) (h : Quiet s t) {p : Nat} {request : Api.Request}
    (hwaiting : s.wire.waiting = (request, .refresh p) :: t.wire.waiting)
    (hp : s.current = some p) (r : Except Api.Error (List Certificate)) :
    Outcome s (finish (t.settleRefresh p r)) := by
  unfold settleRefresh
  split
  · next certificates =>
    have hfits : s.Fits request (.refresh p) :=
      hs.waiting (request, .refresh p) (hwaiting ▸ List.mem_cons_self)
    have hkind := hfits.1
    have hchange := (h.trans (.log (.refreshed certificates.length) t)).trans
      (.modifyDashboard p (f := fun d => { d with snapshot := some certificates })
        (fun _ => rfl) _)
    -- The region is visible already: what is rendered into it changes nothing else.
    have hpaint := hchange.trans (quiet_repaint ((hchange.isVisible_eq _).trans
      (hs.dashboardScreen hp hkind).certificatePanel) p)
    have hcurrent := hpaint.current_eq.trans hp
    simp only [finish, run_nil]
    rw [(hs.quiet hpaint).schedule_eq hcurrent]
    refine .refreshes request ?_ ?_ hp hkind (by simp)
    · rcases timerOf p _ with _ | n
      · exact hpaint
      · exact hpaint.trans (.emit ⟨fun _ => rfl, rfl⟩ _)
    · have hwire := wire_renderDashboard p ((t.log (.refreshed certificates.length)).modifyDashboard
        p fun d => { d with snapshot := some certificates })
      rw [hwaiting]
      rcases timerOf p _ with _ | n
      · exact congrArg (fun w => _ :: w.waiting) hwire.symm
      · exact congrArg (fun w => _ :: w.waiting) hwire.symm
  · split
    · exact hs.outcome_displayNew ((h.trans (.log _ t)).trans (.clearToken _)) (isFresh_login _)
    · exact hs.outcome_displayNew (h.trans (.log _ t)) (isFresh_login _)

/-- **A reply is an outcome.**

**Proof sketch.** By what the reply answers, and whether the page that asked is current. If it is
not, or if nothing waits, then nothing happens but a log line. The others are `outcome_settleFirst`,
the two ends of a login, and `outcome_settleRefresh`. -/
theorem outcome_reply (hs : s.Sound) (reply : Api.Reply) : Outcome s (s.apply (.reply reply)) := by
  rcases hwaiting : s.wire.waiting with _ | ⟨⟨request, purpose⟩, rest⟩
  · rw [apply_reply_nil hwaiting]
    exact .rests (.refl s) fun _ _ => rfl
  · have hquiet : Quiet s (s.answered rest request reply) :=
      quiet_answered (hwaiting ▸ List.suffix_cons _ _) request reply
    have hpolls : ∀ p, purpose ≠ .refresh p →
        (s.answered rest request reply).polls p = s.polls p := by
      intro p hp
      simp [polls, answered, hwaiting, hp]
    have hcurrent : (s.answered rest request reply).current = s.current := rfl
    rw [hs.apply_reply hwaiting]
    unfold settlement
    cases purpose with
    | firstPage =>
      exact hs.outcome_settleFirst hquiet (fun p _ => hpolls p (by simp)) _
    | login p =>
      by_cases hp : s.current = some p
      · obtain ⟨event, page, hpage, heq⟩ :=
          (hs.quiet hquiet).finish_settleLogin (Api.loginOf reply)
        simp only [hcurrent, if_pos hp, heq]
        exact .opens (hquiet.trans (.log event _)) hpage (.refl _) rfl
      · simp only [hcurrent, if_neg hp, finish, run_nil]
        exact .rests (hquiet.trans (.log _ _)) fun q _ => hpolls q (by simp)
    | refresh p =>
      by_cases hp : s.current = some p
      · simp only [hcurrent, if_pos hp]
        exact hs.outcome_settleRefresh hquiet hwaiting hp _
      · simp only [hcurrent, if_neg hp, finish, run_nil]
        refine .rests (hquiet.trans (.log _ _)) fun q hq => hpolls q ?_
        intro heq
        rw [Purpose.refresh.inj heq] at hp
        exact hp hq

/-! ## Gestures -/

/-- The login form that is current asks with the credentials that were typed. -/
theorem finish_submit (hs : s.Sound) {p : Nat} (hp : s.current = some p) :
    finish (s.submit p) = s.cleared.asking (.login p) (.login s.form) := by
  have hactive := (hs.isSome_active?_iff p).mpr hp
  have hscript := (hs.quiet (quiet_cleared s)).script
  unfold cleared at hscript
  simp only [submit, hactive, if_true, finish, run_cons, perform, send_eq hscript, List.append_nil,
    run_nil]
  rfl

/-- A login form that can be submitted is current. -/
theorem current_of_submit (hs : s.Sound) {p : Nat}
    (h : s.bindings .loginSubmit = some (.submit p)) :
    s.current = some p ∧ s.kindOf p = some .login := by
  cases hs.screen with
  | blank b => exact absurd (b.submit.symm.trans h) (by simp)
  | dashboard q d => exact absurd (d.submit.symm.trans h) (by simp)
  | login q l =>
    obtain rfl : q = p := by simpa using l.submit.symm.trans h
    exact ⟨l.current, l.kind⟩

/-- What submits a login form is the gesture for that, with the form that is current. -/
theorem of_bound_submit (hs : s.Sound) {g : Gesture} {p : Nat}
    (h : s.bindings g = some (.submit p)) :
    g = .loginSubmit ∧ s.current = some p ∧ s.kindOf p = some .login := by
  have hg : g = .loginSubmit := by
    cases g with
    | loginSubmit => rfl
    | toggleHorizon =>
      cases hs.screen with
      | blank b => exact absurd (b.toggle.symm.trans h) (by simp)
      | login q l => exact absurd (l.toggle.symm.trans h) (by simp)
      | dashboard q d => exact absurd (d.toggle.symm.trans h) (by simp)
    | logout => exact absurd (hs.logout _ h) (by simp)
  subst hg
  exact ⟨rfl, hs.current_of_submit h⟩

/-- A gesture calls what it is bound to. -/
theorem apply_gesture {g : Gesture} {handler : Handler} (h : s.bindings g = some handler) :
    s.apply (.gesture g) = finish (s.handle handler) := by
  simp [apply, begin, h, run_cons, perform, finish]

/-- **A gesture is an outcome.**

**Proof sketch.** By the handler that is bound to the gesture. A form that is bound is the current
page, so that it sends its login; changing the horizon is a quiet change (`quiet_toggle`); and
logging out opens a form behind the cleared token. -/
theorem outcome_gesture (hs : s.Sound) (g : Gesture) : Outcome s (s.apply (.gesture g)) := by
  rcases hbound : s.bindings g with _ | handler
  · have hrest : s.apply (.gesture g) = s := by simp [apply, begin, hbound]
    rw [hrest]
    exact .rests (.refl s) fun _ _ => rfl
  · rw [apply_gesture hbound]
    cases handler with
    | submit p =>
      obtain ⟨-, hp, hkind⟩ := hs.of_bound_submit hbound
      rw [handle, hs.finish_submit hp]
      exact .submits s.form (quiet_cleared s) rfl hp hkind
    | toggle p =>
      simp only [handle, finish, run_nil]
      exact .rests (hs.quiet_toggle p) fun q _ => by simp [polls, wire_toggle]
    | logout =>
      exact hs.outcome_displayNew ((Quiet.log .logout s).trans (.clearToken _)) (isFresh_login _)

/-! ## All actions -/

/-- Displaying a page that is kept, as one action. -/
theorem apply_display (hs : s.Sound) {place p : Nat} {page : Page}
    (hplace : s.heldAt place = some p) (hpage : s.pages[p]? = some page) :
    s.apply (.display place) = s.showing p page :=
  (apply_display_eq hplace).trans (hs.run_display hpage)

/-- **Displaying a page** that is kept shows it; with no page at the place nothing happens. -/
theorem apply_display_cases (hs : s.Sound) (place : Nat) :
    s.apply (.display place) = s ∨ ∃ p page, s.pages[p]? = some page ∧
      s.apply (.display place) = s.showing p page := by
  rcases hplace : s.heldAt place with _ | p
  · exact .inl (by simp [apply, begin, hplace])
  · rcases hpage : s.pages[p]? with _ | page
    · rw [apply_display_eq hplace]
      exact .inl (by simp [run_cons, perform, hpage])
    · exact .inr ⟨p, page, hpage, hs.apply_display hplace hpage⟩

/-- Making a page and displaying it, as one action. -/
theorem apply_present (hs : s.Sound) {body : PageBody} (hbody : body.IsNew) :
    s.apply (.present body []) = s.opening (.fresh body) := by
  simp only [apply, begin, make_nil]
  exact hs.run_displayNew ⟨body, hbody, rfl⟩

/-- **What an ordinary action comes to.**

**Proof sketch.** By the kinds of actions. Those that change nothing but a slot, the clock, the form
or the jar are quiet. The four that do more have a lemma each: `apply_present`,
`apply_display_cases`, `outcome_gesture` and `outcome_reply`, `apply_elapse`. The others are not
ordinary. -/
theorem apply_outcome (hs : s.Sound) {action : Action} (h : action.IsOrdinary) :
    Outcome s (s.apply action) := by
  have hrests : ∀ {t : Session}, Quiet s t → t.wire = s.wire → Outcome s t := by
    intro t hquiet hwire
    exact .rests hquiet fun p _ => by simp [polls, hwire]
  cases action with
  | keep body plans =>
    obtain ⟨hbody, rfl⟩ := h
    simp only [apply, begin, make_nil, run_nil]
    exact hrests ((Quiet.addPage hbody s).trans (.of_core rfl rfl rfl rfl)) rfl
  | present body plans =>
    obtain ⟨hbody, rfl⟩ := h
    rw [hs.apply_present hbody]
    exact .opens (.refl s) ⟨body, hbody, rfl⟩ (.refl _) rfl
  | hold =>
    simp only [apply, begin, run_nil]
    exact hrests (.of_core rfl rfl rfl rfl) rfl
  | display place =>
    rcases hs.apply_display_cases place with heq | ⟨p, page, hpage, heq⟩
    · rw [heq]
      exact hrests (.refl s) rfl
    · rw [heq]
      exact .shows (.refl s) hpage (.refl _) rfl
  | drop place =>
    simp only [apply, begin, run_nil]
    exact hrests (.of_core rfl rfl rfl rfl) rfl
  | type credentials =>
    simp only [apply, begin, run_nil]
    exact hrests (.of_core rfl rfl rfl rfl) rfl
  | gesture g => exact hs.outcome_gesture g
  | reply reply => exact hs.outcome_reply reply
  | elapse =>
    rcases hs.apply_elapse with ⟨-, heq⟩ | ⟨p, k, hp, hkind, htimer, heq⟩
    · rw [heq]
      exact hrests (.refl s) rfl
    · rw [heq]
      exact .elapses hp hkind htimer
  | setClock now =>
    simp only [apply, begin, run_nil]
    exact hrests (.of_core rfl rfl rfl rfl) rfl
  | setCookies cookies =>
    simp only [apply, begin, run_nil]
    exact hrests (.of_core rfl rfl rfl rfl) rfl
  | activate place => exact h.elim
  | teardown place => exact h.elim
  | giveContext place => exact h.elim
  | close => exact h.elim
  | replay n => exact h.elim
  | script replies => exact h.elim
  | fire n => exact h.elim

/-- **What an action comes to keeps the invariant.** -/
theorem of_outcome (hs : s.Sound) (h : Outcome s t) : t.Sound := by
  cases h with
  | rests hquiet _ => exact hs.quiet hquiet
  | shows hquiet hpage hafter _ => exact ((hs.quiet hquiet).showing hpage).quiet hafter
  | submits credentials hquiet hwaiting hp hkind =>
    exact (hs.quiet hquiet).asking ⟨hquiet.kindOf hkind, credentials, rfl⟩
  | refreshes request hquiet hwaiting hp hkind hcallback =>
    refine (hs.quiet hquiet).withTimer (hquiet.current_eq.trans hp) (hquiet.kindOf hkind) ?_
    intro n hn
    exact ⟨_, (Option.some_inj.mp hn).symm, hcallback⟩
  | elapses hp hkind htimer =>
    refine (hs.withTimer hp hkind (by simp)).asking ⟨?_, rfl⟩
    rw [kindOf_withTimer]
    exact hkind

end Sound

/-- Asking for the first page, as one change. -/
theorem bootstrap_start (services : Services) (now : Int64) (cookies : String) :
    (start services now cookies []).bootstrap =
      ((start services now cookies []).log (.started version)).asking .firstPage .authMethod := by
  have hscript : ((start services now cookies []).log (.started version)).script = [] := rfl
  simp only [bootstrap, run_cons, perform, send_eq hscript, List.append_nil, run_nil]

/-- **How a live session begins is sound.**

**Proof sketch.** A blank session satisfies each field by evaluation. A bootstrap is a log line,
which is a quiet change, and one request behind it (`Sound.asking`). -/
theorem Begins.sound {s : Session} (h : Begins s) : s.Sound := by
  have hstart : ∀ services now cookies, (start services now cookies []).Sound := by
    intro services now cookies
    exact {
      alive := rfl
      script := rfl
      plans := rfl
      own := by simp [start]
      active := by simp [start]
      context := by simp [start]
      screen := .blank ⟨rfl, by simp [isVisible, start], by simp [isVisible, start], rfl, rfl⟩
      logout := by simp [start]
      timer := by simp [timerOf, start]
      owner := fun hne => absurd rfl hne
      waiting := by simp [start, Api.Wire.idle]
      shown := by simp [start] }
  cases h with
  | blank services now cookies => exact hstart services now cookies
  | asking services now cookies =>
    rw [bootstrap_start]
    exact ((hstart services now cookies).quiet (.log (.started version) _)).asking rfl

/-- **All states of a live session are sound.** -/
theorem Reachable.sound {s : Session} (h : Reachable s) : s.Sound := by
  induction h with
  | begin hs => exact hs.sound
  | step action ha _ ih => exact ih.of_outcome (ih.apply_outcome ha)

end Session

end CertDashboard
