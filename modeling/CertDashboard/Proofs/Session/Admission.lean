import CertDashboard.Proofs.Session.Deed
import CertDashboard.Proofs.Session.Lifecycle

set_option autoImplicit false
set_option relaxedAutoImplicit false

/-!
# How a dashboard comes to the screen

As long as nobody displays a page from outside, a dashboard comes to the screen behind two replies
only: the one that the first page depends on, and the one to a login from the form that is current.
The inventory is asked for then, and by a dashboard that is current already.

## Main definitions

* `CertDashboard.Session.Ensues` — what a session comes to without displays from outside.
* `CertDashboard.Session.Bare` — a session in which there is nothing to see and nothing to do.

## Main results

* `CertDashboard.Session.Sound.advance` — what one action displays and asks for.
* `CertDashboard.Session.Bare.ensues` — nothing comes of a session whose first request failed.
* `CertDashboard.Session.Ensues.admits` — why a dashboard comes to the screen, and why the inventory
  is asked for.
-/

namespace CertDashboard

namespace Session

/-- **What a session comes to** when nobody displays a page from outside. -/
inductive Ensues (s : Session) : Session → Prop where
  /-- The state itself. -/
  | refl : Ensues s s
  /-- The state behind one more action. -/
  | step {t : Session} (action : Action) :
    action.IsUnprompted → Ensues s t → Ensues s (t.apply action)

/-- What a live session comes to that way is a state of it. -/
theorem Reachable.ensues {s t : Session} (h : Reachable s) (hst : Ensues s t) : Reachable t := by
  induction hst with
  | refl => exact h
  | step action ha _ ih => exact .step action ha.isOrdinary ih

/-! ## One action -/

/-- **What one action displays and asks for**, when nobody displays a page from outside.

**Proof sketch.** By the deeds that an action can be (`Sound.deed`). A deed that shows a page of the
kind of a dashboard says what let it come. A login asks by another method, changing the horizon and
an inventory ask for nothing, and a timer that is up belongs to the dashboard that is current. -/
theorem Sound.advance {s : Session} (hs : s.Sound) {action : Action} (h : action.IsUnprompted) :
    ∃ views requests pages, Adds views requests pages s (s.apply action) ∧
      (∀ p ∈ pages, (s.apply action).kindOf p = some .dashboard → s.Admits action) ∧
      ∀ r ∈ requests, r.method = .get → s.Admits action ∨
        action = .elapse ∧ ∃ p, s.current = some p ∧ s.kindOf p = some .dashboard := by
  have hdeed := hs.deed h.isOrdinary
  generalize s.apply action = u at hdeed ⊢
  cases hdeed with
  | rests hcalm _ => exact ⟨[], [], [], hcalm.adds, by simp, by simp⟩
  | @shows t _ p page hcalm hpage hadmits hafter =>
    have hown := (hs.quiet hcalm.quiet).own page (List.mem_of_getElem? hpage)
    have hkind : u.kindOf p = some page.kind := by
      refine hafter.quiet.kindOf ?_
      rw [kindOf_showing]
      simp [kindOf, hpage]
    refine ⟨_, _, _, (hcalm.adds.trans (.showing hown p t)).trans hafter.adds, ?_, ?_⟩
    · intro q hq hdashboard
      obtain rfl : q = p := by simpa using hq
      exact hadmits (Option.some_inj.mp (hkind.symm.trans hdashboard)) h
    · intro r hr _
      by_cases hdashboard : page.kind = .dashboard
      · exact .inl (hadmits hdashboard h)
      · simp [hdashboard] at hr
  | submits credentials _ hcalm _ _ =>
    refine ⟨_, _, _, hcalm.adds.trans (.asking _ _ _), by simp, ?_⟩
    intro r hr hget
    obtain rfl := List.mem_singleton.mp hr
    exact absurd hget (by simp [Api.Client.request])
  | toggles _ hp hkind =>
    obtain ⟨d, hd⟩ := hs.exists_dashboard hkind
    exact ⟨_, _, _, .toggle hs hp hd, by simp, by simp⟩
  | @refreshes t p certificates _ _ hkind hcalm _ =>
    obtain ⟨d, hd⟩ := (hs.quiet hcalm.quiet).exists_dashboard (hcalm.quiet.kindOf hkind)
    exact ⟨_, _, _, hcalm.adds.trans (.refreshed hd certificates), by simp, by simp⟩
  | @elapses p callbacks helapse hp hkind =>
    have htimer : Adds [] [] [] s (s.withTimer p none callbacks) := .of_trace rfl
    refine ⟨_, _, _, htimer.trans (.asking _ _ _), by simp, fun _ _ _ => ?_⟩
    exact .inr ⟨helapse, p, hp, hkind⟩

/-! ## The first request -/

/-- **There is nothing to see and nothing to do** in a session. -/
structure Bare (s : Session) : Prop where
  /-- No page is current. -/
  current : s.current = none
  /-- No page was made. -/
  pages : s.pages = []
  /-- Nothing was rendered. -/
  renders : s.renderCount = 0
  /-- No gesture is bound. -/
  bindings : ∀ g, s.bindings g = none
  /-- No timer is due. -/
  timers : s.timers = []

/-- An action that is not the reply to a request leaves nothing to see and nothing to do.

**Proof sketch.** By the kinds of actions. With nothing bound, nothing due and no reply, an action
changes at most the form, the clock or the jar. The other kinds display a page from outside. -/
theorem Bare.step {s : Session} (h : Bare s) {action : Action} (ha : action.IsUnprompted)
    (hreply : ∀ reply, action = .reply reply → s.wire.waiting = []) :
    Bare (s.apply action) ∧ (s.apply action).wire.waiting = s.wire.waiting ∧
      (s.apply action).requests = s.requests := by
  have hrest : ∀ {t : Session}, t = s →
      Bare t ∧ t.wire.waiting = s.wire.waiting ∧ t.requests = s.requests := by
    rintro t rfl
    exact ⟨h, rfl, rfl⟩
  cases action with
  | type credentials =>
    simp only [apply, begin, run_nil]
    exact ⟨⟨h.current, h.pages, h.renders, h.bindings, h.timers⟩, trivial, rfl⟩
  | gesture g => exact hrest (by simp [apply, begin, h.bindings g])
  | reply reply => exact hrest (apply_reply_nil (hreply reply rfl) reply)
  | elapse =>
    simp only [apply, begin, h.timers, List.map_nil, run_nil]
    exact ⟨⟨h.current, h.pages, h.renders, h.bindings, rfl⟩, trivial, rfl⟩
  | setClock now =>
    simp only [apply, begin, run_nil]
    exact ⟨⟨h.current, h.pages, h.renders, h.bindings, h.timers⟩, trivial, rfl⟩
  | setCookies cookies =>
    simp only [apply, begin, run_nil]
    exact ⟨⟨h.current, h.pages, h.renders, h.bindings, h.timers⟩, trivial, rfl⟩
  | keep body plans => exact ha.elim
  | present body plans => exact ha.elim
  | hold => exact ha.elim
  | display place => exact ha.elim
  | activate place => exact ha.elim
  | teardown place => exact ha.elim
  | giveContext place => exact ha.elim
  | drop place => exact ha.elim
  | close => exact ha.elim
  | replay n => exact ha.elim
  | script replies => exact ha.elim
  | fire n => exact ha.elim

/-- **Nothing comes of a session** in which there is nothing to see and nothing to do, and no
request waits. -/
theorem Bare.ensues {s t : Session} (h : Bare s) (hwaiting : s.wire.waiting = [])
    (hst : Ensues s t) : Bare t ∧ t.wire.waiting = [] ∧ t.requests = s.requests := by
  induction hst with
  | refl => exact ⟨h, hwaiting, rfl⟩
  | step action ha _ ih =>
    obtain ⟨hbare, hnone, hrequests⟩ := ih
    obtain ⟨hbare', hwaiting', hrequests'⟩ := hbare.step ha fun _ _ => hnone
    exact ⟨hbare', hwaiting'.trans hnone, hrequests'.trans hrequests⟩

/-- A first request that fails leaves nothing to see and nothing to do.

**Proof sketch.** The reply is an error, so that settling it is a log line and the report to whoever
asked. Neither of them is to be seen, and the only request was the one that is answered. -/
theorem Bare.failed {s : Session} (h : Bare s) (hs : s.Sound) {request : Api.Request}
    (hwaiting : s.wire.waiting = [(request, .firstPage)]) {reply : Api.Reply} {e : Api.Error}
    (herror : Api.authMethodOf reply = .error e) :
    Bare (s.apply (.reply reply)) ∧ (s.apply (.reply reply)).wire.waiting = [] ∧
      (s.apply (.reply reply)).requests = s.requests := by
  have hcalm : Calm s (((s.answered [] request reply).log (.authQueryFailed e)).emit
      (.ready (.error e))) :=
    ((Calm.answered List.nil_suffix request reply).trans (.log _ _)).trans
      (.emit ⟨fun _ => rfl, rfl⟩ rfl rfl _)
  rw [hs.apply_reply hwaiting]
  simp only [settlement, herror, settleFirst, finish, run_nil]
  refine ⟨⟨h.current, h.pages, ?_, h.bindings, h.timers⟩, rfl, ?_⟩
  · have hrenders := h.renders
    unfold renderCount at hrenders ⊢
    simpa [log, emit, answered, List.countP_append, List.countP_map, Function.comp_def]
      using hrenders
  · rw [hcalm.adds.requests_eq, List.append_nil]

/-- An action sends no request that the first page depends on.

**Proof sketch.** By the outcomes. What waits behind one is what waited before, and at most one
request of a login or of a refresh. -/
theorem waiting_of_outcome {s t : Session} (h : Outcome s t)
    (hwaiting : ∀ e ∈ s.wire.waiting, e.2 ≠ .firstPage) :
    ∀ e ∈ t.wire.waiting, e.2 ≠ .firstPage := by
  have hquiet : ∀ {u : Session}, Quiet s u → ∀ e ∈ u.wire.waiting, e.2 ≠ .firstPage :=
    fun hquiet e he => hwaiting e (hquiet.waiting.mem he)
  cases h with
  | rests h _ => exact hquiet h
  | @shows u _ p page h _ _ hafter =>
    intro e he
    rw [hafter, waiting_showing] at he
    rcases List.mem_append.mp he with he | he
    · exact hquiet h e he
    · cases hkind : page.kind with
      | login => simp [hkind] at he
      | dashboard => simp_all
  | submits credentials h _ _ _ =>
    intro e he
    rcases List.mem_append.mp he with he | he
    · exact hquiet h e he
    · obtain rfl := List.mem_singleton.mp he
      simp
  | refreshes request h _ _ _ _ =>
    intro e he
    exact hquiet h e he
  | elapses _ _ _ =>
    intro e he
    rcases List.mem_append.mp he with he | he
    · exact hwaiting e he
    · obtain rfl := List.mem_singleton.mp he
      simp

/-- Behind the reply that the first page depends on, no request is for that. -/
theorem Sound.waiting_firstPage {s : Session} (hs : s.Sound) {request : Api.Request}
    (hwaiting : s.wire.waiting = [(request, .firstPage)]) (reply : Api.Reply) :
    ∀ e ∈ (s.apply (.reply reply)).wire.waiting, e.2 ≠ .firstPage := by
  have hsound := hs.quiet (quiet_answered (hwaiting ▸ List.suffix_cons _ _) request reply)
  have hanswered : ∀ e ∈ (s.answered [] request reply).wire.waiting, e.2 ≠ .firstPage :=
    List.forall_mem_nil _
  rw [hs.apply_reply hwaiting]
  exact waiting_of_outcome (hsound.outcome_settleFirst (.refl _) (fun _ _ => rfl) _) hanswered

/-- **The first request** is the only one that the first page depends on, and as long as it waits
there is nothing to see and nothing to do.

**Proof sketch.** Induction on the run. As long as the first request waits, nothing but a reply gets
on (`Bare.step`), and the reply takes that request off (`Sound.waiting_firstPage`). From then on no
action sends another one (`waiting_of_outcome`). -/
theorem Ensues.first {services : Services} {now : Int64} {cookies : String} {s : Session}
    (h : Ensues (start services now cookies []).bootstrap s) :
    (Bare s ∧ s.wire.waiting = [(services.client.request .authMethod, .firstPage)]) ∨
      ∀ e ∈ s.wire.waiting, e.2 ≠ .firstPage := by
  induction h with
  | refl =>
    rw [bootstrap_start]
    exact .inl ⟨⟨rfl, rfl, rfl, fun _ => rfl, rfl⟩, rfl⟩
  | @step t action ha ht ih =>
    have hs := ((Reachable.begin (.asking services now cookies)).ensues ht).sound
    rcases ih with ⟨hbare, hwaiting⟩ | hnone
    · by_cases hreply : ∃ reply, action = .reply reply
      · obtain ⟨reply, rfl⟩ := hreply
        exact .inr (hs.waiting_firstPage hwaiting reply)
      · obtain ⟨hbare', hsame, -⟩ := hbare.step ha fun reply heq => absurd ⟨reply, heq⟩ hreply
        exact .inl ⟨hbare', hsame.trans hwaiting⟩
    · exact .inr (waiting_of_outcome (hs.apply_outcome ha.isOrdinary) hnone)

/-- A page that is current, and was not before, was displayed since: the current page is the one
that was displayed last. -/
theorem Reachable.mem_of_current {s t : Session} (hs : Reachable s) (ht : Reachable t)
    {pages : List Nat} (hshown : t.shown = s.shown ++ pages) {p : Nat} (hp : t.current = some p)
    (hne : s.current ≠ some p) : p ∈ pages := by
  have hlast := ht.current_eq
  rw [hp, hshown, List.getLast?_append, ← hs.current_eq] at hlast
  rcases hpages : pages.getLast? with _ | q
  · rw [hpages] at hlast
    exact absurd hlast.symm hne
  · rw [hpages] at hlast
    obtain rfl : p = q := Option.some_inj.mp hlast
    exact List.mem_of_getLast? hpages

/-- **A dashboard comes to the screen behind two replies only.** A session that begins with the
question for the first page, and in which nobody displays a page from outside, shows nothing at
first. A dashboard that comes to its screen was let by the reply to that question, or by the reply
to a login from the form that was current. The inventory is asked for then, or by a dashboard that
is current when its timer is up. If the question fails, nothing is ever to be seen, bound, due or
asked for.

**Proof sketch.** The beginning is computed. What an action displays and asks for is
`Sound.advance`; a page that is current and was not before was displayed by it. A reply that names
nothing is an error, which leaves a bare session (`Bare.failed`), and that stays bare
(`Bare.ensues`). -/
theorem Ensues.admits {services : Services} {now : Int64} {cookies : String} {s : Session}
    (h : Ensues (start services now cookies []).bootstrap s) :
    ((start services now cookies []).bootstrap.current = none ∧
      (start services now cookies []).bootstrap.requests =
        [services.client.request .authMethod]) ∧
    (∀ action, action.IsUnprompted → ∃ pages requests,
      (s.apply action).shown = s.shown ++ pages ∧
        (s.apply action).requests = s.requests ++ requests ∧
        (∀ p, p ∈ pages ∨ (s.apply action).current = some p ∧ s.current ≠ some p →
          (s.apply action).kindOf p = some .dashboard → s.Admits action) ∧
        ∀ r ∈ requests, r.method = .get → r.url.path = "/v1/cache" → s.Admits action ∨
          action = .elapse ∧ ∃ p, s.current = some p ∧ s.kindOf p = some .dashboard) ∧
    ∀ request reply, s.wire.waiting.head? = some (request, .firstPage) →
      (∀ given, ¬ reply.Names given) → ∀ t, Ensues (s.apply (.reply reply)) t →
        Bare t ∧ t.wire.waiting = [] ∧ t.requests = s.requests := by
  have hreach := (Reachable.begin (.asking services now cookies)).ensues h
  have hs := hreach.sound
  refine ⟨?_, fun action ha => ?_, fun request reply hhead hfails t ht => ?_⟩
  · rw [bootstrap_start]
    exact ⟨rfl, rfl⟩
  · obtain ⟨views, requests, pages, hadds, hdashboard, hget⟩ := hs.advance ha
    refine ⟨pages, requests, hadds.shown_eq, hadds.requests_eq, ?_, fun r hr hmethod _ =>
      hget r hr hmethod⟩
    intro p hp hkind
    refine hdashboard p ?_ hkind
    rcases hp with hp | ⟨hcurrent, hne⟩
    · exact hp
    · exact hreach.mem_of_current (.step action ha.isOrdinary hreach) hadds.shown_eq hcurrent hne
  · rcases h.first with ⟨hbare, hwaiting⟩ | hnone
    · obtain ⟨e, herror⟩ : ∃ e, Api.authMethodOf reply = .error e := by
        rcases hauth : Api.authMethodOf reply with e | auth
        · exact ⟨e, rfl⟩
        · obtain ⟨given, hnames, -⟩ := (Api.authMethodOf_eq_ok_iff reply auth).mp hauth
          exact absurd hnames (hfails given)
      obtain ⟨hbare', hwaiting', hrequests⟩ := hbare.failed hs hwaiting herror
      obtain ⟨hlast, hnone, hsame⟩ := hbare'.ensues hwaiting' ht
      exact ⟨hlast, hnone, hsame.trans hrequests⟩
    · exact absurd rfl (hnone _ (List.mem_of_head? hhead))

/-- A backend without users lets a dashboard come to the screen at once; one that fails leaves
nothing to see.

**Proof sketch.** Both replies are given to the session behind the bootstrap, which is computed. The
first one opens a dashboard (`Sound.finish_settleFirst`), and `Ensues.admits` says what let it; the
second one names nothing. -/
theorem admits_standardStart :
    let first := standardStart.bootstrap
    let opened := first.apply (.reply (.response ⟨200, "\x7b\x7d"⟩))
    let failed := (first.apply (.reply (.response ⟨500, ""⟩))).apply .elapse
    (opened.current = some 0 ∧ opened.kindOf 0 = some .dashboard ∧
      first.Admits (.reply (.response ⟨200, "\x7b\x7d"⟩))) ∧
      Bare failed ∧ failed.requests = first.requests := by
  intro first opened failed
  have hadmits := Ensues.admits (.refl : Ensues (start standardServices 0 "" []).bootstrap first)
  have hfirst : first = (standardStart.log (.started version)).asking .firstPage .authMethod :=
    bootstrap_start _ _ _
  have hs : first.Sound := (Begins.asking standardServices 0 "").sound
  have hwaiting : first.wire.waiting =
      [(standardServices.client.request .authMethod, .firstPage)] := by
    rw [hfirst]
    rfl
  have hopened : opened.current = some 0 ∧ opened.kindOf 0 = some .dashboard := by
    have hauth : Api.authMethodOf (.response ⟨200, "\x7b\x7d"⟩) = .ok .anonymous := by cbv
    have hsound := hs.quiet (quiet_answered (List.nil_suffix)
      (standardServices.client.request .authMethod) (.response ⟨200, "\x7b\x7d"⟩))
    obtain ⟨event, heq⟩ := hsound.finish_settleFirst .anonymous
    have happly : opened = finish _ := hs.apply_reply hwaiting _
    rw [happly]
    simp only [settlement, hauth]
    rw [heq, hfirst]
    exact ⟨rfl, rfl⟩
  have hfails : ∀ given, ¬ (Api.Reply.response ⟨500, ""⟩).Names given := by
    rintro given ⟨response, heq, hsuccess, -⟩
    obtain rfl := Api.Reply.response.inj heq
    exact absurd hsuccess (by decide)
  obtain ⟨pages, requests, -, -, hdashboard, -⟩ := hadmits.2.1 (.reply (.response ⟨200, "\x7b\x7d"⟩))
    trivial
  obtain ⟨hbare, -, hrequests⟩ := hadmits.2.2 _ _ (congrArg List.head? hwaiting) hfails failed
    (.step .elapse trivial .refl)
  refine ⟨⟨hopened.1, hopened.2, hdashboard 0 (.inr ⟨hopened.1, ?_⟩) hopened.2⟩, hbare, hrequests⟩
  exact fun h => absurd (hadmits.1.1.symm.trans h) (by simp)

end Session

end CertDashboard
