import CertDashboard.Proofs.Session.Outcome

set_option autoImplicit false
set_option relaxedAutoImplicit false

/-!
# The current page and the others

The page that was displayed last is the current one. It alone is active, what there is to see and
what the gestures are bound to is its own, and only the replies to its own requests do anything.

## Main definitions

* `CertDashboard.Session.submitAll` — the login form, submitted again and again.
* `CertDashboard.Session.Discards` — what a reply does that nobody waits for any longer.

## Main results

* `CertDashboard.Session.Reachable.current_eq` — the current page is the one displayed last.
* `CertDashboard.Session.Reachable.screen_of_current` — what there is to see, in all states of a
  live session.
* `CertDashboard.Session.Reachable.discards_stale` — replies to a page that is not current, in all
  states of a live session.
-/

namespace CertDashboard

namespace Session

/-! ## The page displayed last -/

/-- An ordinary action displays no page, and the current one stays, or it displays one page, which
is current then. -/
theorem Sound.shown_of_outcome {s t : Session} (hs : s.Sound) (h : Outcome s t) :
    (t.shown = s.shown ∧ t.current = s.current) ∨
      ∃ p, t.shown = s.shown ++ [p] ∧ t.current = some p := by
  cases h with
  | rests hquiet _ => exact .inl ⟨hquiet.shown_eq, hquiet.current_eq⟩
  | @shows u _ p page hquiet hpage hafter _ =>
    refine .inr ⟨p, ?_, hafter.current_eq⟩
    rw [hafter.shown_eq, (hs.quiet hquiet).shown_showing hpage, hquiet.shown_eq]
  | submits credentials hquiet _ _ _ =>
    exact .inl ⟨(shown_asking _ _ _).trans hquiet.shown_eq, hquiet.current_eq⟩
  | refreshes request hquiet _ _ _ _ => exact .inl ⟨hquiet.shown_eq, hquiet.current_eq⟩
  | elapses _ _ _ => exact .inl ⟨shown_asking _ _ _, rfl⟩

/-- **The current page is the one displayed last.** -/
theorem Reachable.current_eq {s : Session} (h : Reachable s) : s.current = s.shown.getLast? := by
  induction h with
  | begin hs =>
    cases hs with
    | blank services now cookies => rfl
    | asking services now cookies =>
      rw [bootstrap_start, shown_asking]
      rfl
  | step action haction hs ih =>
    rcases hs.sound.shown_of_outcome (hs.sound.apply_outcome haction) with ⟨hshown, hcurrent⟩ |
      ⟨p, hshown, hcurrent⟩
    · rw [hshown, hcurrent, ih]
    · rw [hshown, hcurrent, List.getLast?_concat]

/-- Pages that were displayed stay so. -/
theorem Reachable.shown_prefix {s t : Session} (h : Reachable s) (hl : Later s t) :
    s.shown <+: t.shown := by
  induction hl with
  | refl => exact List.prefix_refl _
  | step action haction hl ih =>
    have hsound := (h.later hl).sound
    rcases hsound.shown_of_outcome (hsound.apply_outcome haction) with ⟨hshown, -⟩ | ⟨p, hshown, -⟩
    · rw [hshown]
      exact ih
    · rw [hshown]
      exact ih.trans (List.prefix_append _ _)

/-- A page that is not current and is not displayed again is not current later either. -/
theorem Reachable.current_ne_later {s t : Session} (h : Reachable s) (hl : Later s t) {p : Nat}
    (hp : s.current ≠ some p) (hagain : p ∉ t.shown.drop s.shown.length) :
    t.current ≠ some p := by
  obtain ⟨new, hnew⟩ := h.shown_prefix hl
  rw [← hnew, List.drop_left] at hagain
  rw [(h.later hl).current_eq, ← hnew, List.getLast?_append]
  rw [h.current_eq] at hp
  rcases hlast : new.getLast? with _ | q
  · simpa using hp
  · intro hq
    obtain rfl : q = p := by simpa using hq
    exact hagain (List.mem_of_getLast? hlast)

/-! ## What there is to see -/

/-- **What there is to see is the current page**, in all states of a live session. That page, which
was displayed last, is the only one that is active. A login form or a dashboard that is current has
its region to itself, and its gesture; before the first page there is neither.

**Proof sketch.** The invariant says which page is active and what is on the screen for each kind of
page that is current. That the current page is the one displayed last is an invariant of its own
(`Reachable.current_eq`). -/
theorem Reachable.screen_of_current {s : Session} (h : Reachable s) :
    (∀ p, s.current = some p ↔ ∃ page, s.pages[p]? = some page ∧ page.isActive = true) ∧
      s.current = s.shown.getLast? ∧
      (∀ p, s.current = some p → s.kindOf p = some .login → LoginScreen p s) ∧
      (∀ p, s.current = some p → s.kindOf p = some .dashboard → DashboardScreen p s) ∧
      (s.shown = [] → BlankScreen s) := by
  have hs := h.sound
  refine ⟨fun p => ?_, h.current_eq, fun p => hs.loginScreen, fun p => hs.dashboardScreen, ?_⟩
  · constructor
    · intro hp
      obtain ⟨page, hpage, hactive, -⟩ := hs.exists_page hp
      exact ⟨page, hpage, hactive⟩
    · rintro ⟨page, hpage, hactive⟩
      exact (hs.active p page hpage).mp hactive
  · intro hshown
    have hnone : s.current = none := by rw [h.current_eq, hshown]; rfl
    cases hs.screen with
    | blank b => exact b
    | login p l => exact absurd (hnone.symm.trans l.current) (by simp)
    | dashboard p d => exact absurd (hnone.symm.trans d.current) (by simp)

/-- A login form that gives way to a dashboard and is displayed once more: it has the screen to
itself again.

**Proof sketch.** The three displays are computed (`apply_display`, `apply_present`), and the
theorem is applied to the states before, in between and behind them. -/
theorem screen_of_current_standardStart :
    let kept := standardStart.apply (.keep (.login none) [])
    let away := (kept.apply (.display 0)).apply (.present (.dashboard ⟨none, none, none⟩) [])
    BlankScreen kept ∧ DashboardScreen 1 away ∧ LoginScreen 0 (away.apply (.display 0)) := by
  intro kept away
  have hkept : Reachable kept := .step _ ⟨trivial, rfl⟩ reachable_standardStart
  have hshown : Reachable (kept.apply (.display 0)) := .step _ trivial hkept
  have haway : Reachable away := .step _ ⟨rfl, rfl⟩ hshown
  have hagain : Reachable (away.apply (.display 0)) := .step _ trivial haway
  have hnew : (PageBody.dashboard ⟨none, none, none⟩).IsNew := rfl
  have hkeep : kept = { (standardStart.addPage (.login none)).2 with held := [some 0] } := by
    show Session.apply _ _ = _
    simp only [apply, begin, run_nil]
    rfl
  have hopened : away = (kept.showing 0 (.login none)).opening .dashboard := by
    show Session.apply _ _ = _
    rw [hshown.sound.apply_present hnew, hkept.sound.apply_display (by rw [hkeep]; rfl)
      (by rw [hkeep]; rfl)]
    rfl
  rw [hkeep] at hopened
  have hheld : away.heldAt 0 = some 0 := by rw [hopened]; rfl
  obtain ⟨page, hpage⟩ : ∃ page, away.pages[0]? = some page := by
    rw [hopened]
    exact ⟨_, rfl⟩
  have hlast := haway.sound.apply_display hheld hpage
  refine ⟨hkept.screen_of_current.2.2.2.2 (by rw [hkeep]; rfl),
    haway.screen_of_current.2.2.2.1 1 (by rw [hopened]; rfl) (by rw [hopened]; rfl),
    hagain.screen_of_current.2.2.1 0 ?_ ?_⟩
  · rw [hlast]
    rfl
  · rw [hlast, kindOf_showing, hopened]
    rfl

/-! ## Replies that nobody waits for -/

/-- **What a reply does that nobody waits for any longer**: its request waits no longer, something
may be logged, and all else stays as it was. -/
def Discards (s t : Session) : Prop :=
  ∃ events : List Log.Event, t = { s with
    wire := { s.wire with waiting := s.wire.waiting.tail }
    trace := s.trace ++ events.map .log }

/-- A reply to a page that is not current is discarded.

**Proof sketch.** A reply to a login or to a refresh is settled only by a page that is current.
Otherwise a line is logged, and nothing else of the session depends on the reply than the request
that it takes off the wire. -/
theorem Sound.discards {s : Session} (hs : s.Sound) {request : Api.Request} {purpose : Purpose}
    {p : Nat} (hwaiting : s.wire.waiting.head? = some (request, purpose))
    (hpage : purpose.page? = some p) (hp : s.current ≠ some p) (reply : Api.Reply) :
    Discards s (s.apply (.reply reply)) := by
  obtain ⟨rest, hrest⟩ := List.head?_eq_some_iff.mp hwaiting
  have hcurrent : (s.answered rest request reply).current ≠ some p := hp
  rw [hs.apply_reply hrest]
  unfold settlement
  cases purpose with
  | firstPage => exact absurd hpage (by simp [Purpose.page?])
  | login q =>
    obtain rfl : q = p := Option.some_inj.mp hpage
    refine ⟨request.replyEvents reply ++ [.staleLogin], ?_⟩
    simp only [if_neg hcurrent, finish, run_nil]
    simp [log, emit, answered, hrest]
  | refresh q =>
    obtain rfl : q = p := Option.some_inj.mp hpage
    refine ⟨request.replyEvents reply ++ [.staleRefresh], ?_⟩
    simp only [if_neg hcurrent, finish, run_nil]
    simp [log, emit, answered, hrest]

/-- A reply to the login form that is current displays a page that was just made. -/
theorem Sound.apply_reply_login {s : Session} (hs : s.Sound) {request : Api.Request} {p : Nat}
    {rest : List (Api.Request × Purpose)} (h : s.wire.waiting = (request, .login p) :: rest)
    (hp : s.current = some p) (reply : Api.Reply) : ∃ event page, page.IsFresh ∧
      s.apply (.reply reply) = ((s.answered rest request reply).log event).opening page := by
  have hquiet : Quiet s (s.answered rest request reply) :=
    quiet_answered (h ▸ List.suffix_cons _ _) request reply
  have hcurrent : (s.answered rest request reply).current = some p := hp
  rw [hs.apply_reply h]
  simp only [settlement, if_pos hcurrent]
  exact (hs.quiet hquiet).finish_settleLogin (Api.loginOf reply)

/-- The requests that wait behind a reply to the login form that is current are those that waited
before, and maybe one of the page displayed then. -/
theorem Sound.waiting_reply {s : Session} (hs : s.Sound) {request : Api.Request} {p : Nat}
    {rest : List (Api.Request × Purpose)} (h : s.wire.waiting = (request, .login p) :: rest)
    (hp : s.current = some p) (reply : Api.Reply) :
    rest <+: (s.apply (.reply reply)).wire.waiting := by
  obtain ⟨event, page, -, heq⟩ := hs.apply_reply_login h hp reply
  rw [heq]
  unfold opening
  rw [waiting_showing]
  exact List.prefix_append _ _

/-- Behind a reply to a login form that form is not current.

**Proof sketch.** If the form was current, then another page is displayed, which is a new one
(`apply_reply_login`). If it was not, then nothing is displayed (`Sound.discards`). -/
theorem Sound.current_ne_of_reply {s : Session} (hs : s.Sound) {request : Api.Request} {p : Nat}
    (hwaiting : s.wire.waiting.head? = some (request, .login p)) (reply : Api.Reply) :
    (s.apply (.reply reply)).current ≠ some p := by
  by_cases hp : s.current = some p
  · obtain ⟨rest, hrest⟩ := List.head?_eq_some_iff.mp hwaiting
    obtain ⟨event, page, -, heq⟩ := hs.apply_reply_login hrest hp reply
    rw [heq]
    obtain ⟨old, hold, -⟩ := hs.exists_page hp
    have hlt := (List.getElem?_eq_some_iff.mp hold).1
    -- The page displayed then is a new one, with a number that no page had before.
    intro hnew
    have hnumber : s.pages.length = p := Option.some_inj.mp hnew
    omega
  · obtain ⟨events, heq⟩ := hs.discards hwaiting rfl hp reply
    rw [heq]
    exact hp

/-- The login form, submitted again and again, each time after credentials were typed. -/
def submitAll (typed : List Api.Credentials) (s : Session) : Session :=
  typed.foldl (fun s credentials => (s.apply (.type credentials)).apply (.gesture .loginSubmit)) s

/-- Submitting the login form that is current, after credentials were typed. -/
theorem Sound.apply_submit {s : Session} (hs : s.Sound) {p : Nat} (hp : s.current = some p)
    (hkind : s.kindOf p = some .login) (credentials : Api.Credentials) :
    (s.apply (.type credentials)).apply (.gesture .loginSubmit) =
      { s with form := credentials }.cleared.asking (.login p) (.login credentials) := by
  have htype : s.apply (.type credentials) = { s with form := credentials } := by
    simp [apply, begin]
  have htyped : { s with form := credentials }.Sound := hs.quiet (.of_core rfl rfl rfl rfl)
  rw [htype, apply_gesture (htyped.loginScreen hp hkind).submit]
  exact htyped.finish_submit hp

/-- A login form that is submitted again and again stays current, and each time one more request of
it waits.

**Proof sketch.** Induction on the submissions. Each one is a quiet change of the form and a request
behind all others (`apply_submit`), so that the page stays current and the session sound. -/
theorem Sound.waiting_submitAll {s : Session} (hs : s.Sound) {p : Nat} (hp : s.current = some p)
    (hkind : s.kindOf p = some .login) (typed : List Api.Credentials) :
    (s.submitAll typed).current = some p ∧
      (s.submitAll typed).wire.waiting = s.wire.waiting ++ typed.map fun credentials =>
        (s.services.client.request (.login credentials), .login p) := by
  induction typed generalizing s with
  | nil => simp [submitAll, hp]
  | cons credentials typed ih =>
    have hform : Quiet s { s with form := credentials } := .of_core rfl rfl rfl rfl
    have hquiet := hform.trans (quiet_cleared _)
    have hsound : ({ s with form := credentials }.cleared.asking (.login p)
        (.login credentials)).Sound :=
      (hs.quiet hquiet).asking ⟨hquiet.kindOf hkind, credentials, rfl⟩
    obtain ⟨hcurrent, hrest⟩ := ih hsound hp (hquiet.kindOf hkind)
    have hstep : s.submitAll (credentials :: typed) =
        ({ s with form := credentials }.cleared.asking (.login p)
          (.login credentials)).submitAll typed := by
      rw [← hs.apply_submit hp hkind credentials]
      rfl
    have hone : ({ s with form := credentials }.cleared.asking (.login p)
        (.login credentials)).wire.waiting =
          s.wire.waiting ++ [(s.services.client.request (.login credentials), .login p)] := rfl
    rw [hstep, hrest, hone, List.append_assoc]
    exact ⟨hcurrent, rfl⟩

/-- **Replies to a page that is not current are discarded**, in all states of a live session. So
when a login form was submitted again and again, and each time another request waits, no reply but
the first one does anything, as long as the form is not displayed again.

**Proof sketch.** The first two parts hold of every sound state (`Sound.discards`,
`Sound.waiting_submitAll`). Behind the reply to a login the form is not current
(`Sound.current_ne_of_reply`), and without another display it never is again
(`Reachable.current_ne_later`), so the first part applies. -/
theorem Reachable.discards_stale {s : Session} (h : Reachable s) :
    (∀ request purpose p, s.wire.waiting.head? = some (request, purpose) →
      purpose.page? = some p → s.current ≠ some p →
        ∀ reply, Discards s (s.apply (.reply reply))) ∧
      (∀ p, s.current = some p → s.kindOf p = some .login → ∀ typed,
        (s.submitAll typed).current = some p ∧
          (s.submitAll typed).wire.waiting = s.wire.waiting ++ typed.map fun credentials =>
            (s.services.client.request (.login credentials), .login p)) ∧
      (∀ request p, s.wire.waiting.head? = some (request, .login p) → ∀ reply t,
        Later (s.apply (.reply reply)) t →
          p ∉ t.shown.drop (s.apply (.reply reply)).shown.length →
            ∀ request', t.wire.waiting.head? = some (request', .login p) →
              ∀ reply', Discards t (t.apply (.reply reply'))) := by
  have hs := h.sound
  refine ⟨fun request purpose p hwaiting hpage hp reply => hs.discards hwaiting hpage hp reply,
    fun p hp hkind typed => hs.waiting_submitAll hp hkind typed, ?_⟩
  intro request p hwaiting reply t hlater hagain request' hwaiting' reply'
  have hreach : Reachable (s.apply (.reply reply)) := .step (.reply reply) trivial h
  have hne := hs.current_ne_of_reply hwaiting reply
  exact (hreach.later hlater).sound.discards hwaiting' rfl
    (hreach.current_ne_later hlater hne hagain) reply'

/-- A login form that is submitted twice: the reply to its second request is discarded, even though
that one would accept the credentials.

**Proof sketch.** A form is opened and submitted twice, which leaves two requests. The reply to the
first one takes it off (`waiting_reply`), and the theorem is applied to the second one. -/
theorem discards_stale_standardStart :
    let form := standardStart.apply (.present (.login none) [])
    let asked := form.submitAll [⟨"ann", "guess"⟩, ⟨"ann", "secret"⟩]
    let refused := asked.apply (.reply (.response ⟨401, ""⟩))
    refused.wire.waiting.head? =
        some (form.services.client.request (.login ⟨"ann", "secret"⟩), .login 0) ∧
      Discards refused (refused.apply (.reply (.response ⟨200, ""⟩))) := by
  intro form asked refused
  have hform : form = standardStart.opening (.login none) :=
    reachable_standardStart.sound.apply_present trivial
  have hreach : Reachable form := .step _ ⟨trivial, rfl⟩ reachable_standardStart
  have hcurrent : form.current = some 0 := by rw [hform]; rfl
  have hkind : form.kindOf 0 = some .login := by rw [hform]; rfl
  have hnone : form.wire.waiting = [] := by rw [hform]; rfl
  have hasked : Reachable asked :=
    .step (.gesture .loginSubmit) trivial (.step (.type _) trivial
      (.step (.gesture .loginSubmit) trivial (.step (.type _) trivial hreach)))
  obtain ⟨hstays, hwaiting⟩ := hreach.discards_stale.2.1 0 hcurrent hkind
    [⟨"ann", "guess"⟩, ⟨"ann", "secret"⟩]
  rw [hnone, List.nil_append] at hwaiting
  have hsecond : refused.wire.waiting.head? =
      some (form.services.client.request (.login ⟨"ann", "secret"⟩), .login 0) := by
    obtain ⟨rest, hrest⟩ := hasked.sound.waiting_reply hwaiting hstays (.response ⟨401, ""⟩)
    rw [← hrest]
    rfl
  have hfirst : asked.wire.waiting.head? =
      some (form.services.client.request (.login ⟨"ann", "guess"⟩), .login 0) :=
    congrArg List.head? hwaiting
  have hagain : 0 ∉ refused.shown.drop refused.shown.length := by simp
  exact ⟨hsecond, hasked.discards_stale.2.2 _ 0 hfirst _ refused .refl hagain _ hsecond _⟩

end Session

end CertDashboard
