import CertDashboard.Proofs.Session.Show

set_option autoImplicit false
set_option relaxedAutoImplicit false

/-!
# Requests that wait and timers that are due

## Main definitions

* `CertDashboard.Session.asking` — the session behind a request that waits.
* `CertDashboard.Session.withTimer` — the session with another timer, or none, for a page.

## Main results

* `CertDashboard.Session.Sound.asking`, `CertDashboard.Session.Sound.withTimer` — both keep the
  invariant.
* `CertDashboard.Session.Sound.schedule_eq`, `CertDashboard.Session.Sound.apply_elapse` — setting a
  timer, and a timer that is up, are such changes.
* `CertDashboard.Session.Sound.quiet_toggle`, `CertDashboard.Session.quiet_repaint` — changing the
  horizon and rendering a dashboard are quiet changes.
-/

namespace CertDashboard

namespace Session

/-! ## Requests -/

/-- **The session behind a request that waits.** -/
def asking (purpose : Purpose) (call : Api.Call) (s : Session) : Session := { s with
  wire := s.wire.park (s.services.client.request call) purpose
  trace := s.trace ++ [.log (s.services.client.request call).sentEvent,
    .sent (s.services.client.request call) true] }

/-- Without replies that are there before, a request waits. -/
theorem send_eq {s : Session} (h : s.script = []) (purpose : Purpose) (call : Api.Call) :
    s.send purpose call = (s.asking purpose call, []) := by
  simp [send, log, emit, asking, h]

/-- A request that waits leaves the core alone. -/
theorem core_asking (purpose : Purpose) (call : Api.Call) (s : Session) :
    (s.asking purpose call).core = s.core := by
  have hlog := core_log (s.services.client.request call).sentEvent s
  have hsent := core_emit (e := .sent (s.services.client.request call) true)
    ⟨fun _ => rfl, rfl⟩ (s.log (s.services.client.request call).sentEvent)
  rw [← hlog, ← hsent]
  simp [core, asking, emit, log, isVisible, shown, handlers]

/-- A request that waits leaves the pages that were displayed alone. -/
theorem shown_asking (purpose : Purpose) (call : Api.Call) (s : Session) :
    (s.asking purpose call).shown = s.shown :=
  congrArg Core.shown (core_asking purpose call s)

namespace Sound

variable {s t : Session}

/-- **A request that fits what it is for keeps the invariant.** -/
theorem asking (hs : s.Sound) {purpose : Purpose} {call : Api.Call}
    (hfits : s.Fits (s.services.client.request call) purpose) :
    (s.asking purpose call).Sound := by
  have hcore := core_asking purpose call s
  refine { hs with screen := ?_, waiting := ?_, shown := ?_ }
  · exact hs.screen.congr rfl (fun _ _ h => h) rfl rfl (congrFun (congrArg Core.visible hcore))
  · intro e he
    rcases List.mem_append.mp he with he | he
    · exact hs.waiting e he
    · obtain rfl := List.mem_singleton.mp he
      exact hfits
  · intro p hp
    rw [shown_asking]
    exact hs.shown p hp

end Sound

/-! ## Timers -/

/-- **The session with another timer**, or none, for a page. -/
def withTimer (p : Nat) (timer : Option Nat) (callbacks : List Callback) (s : Session) : Session :=
  { s with
    pages := s.pages.modify p (Page.mapDashboard fun d => { d with timer := timer })
    timers := timer.toList.map fun n => ⟨n, s.services.tuning.refreshSeconds⟩
    callbacks := callbacks }

/-- A page of the session with another timer. -/
theorem getElem?_withTimer (p q : Nat) (timer : Option Nat) (callbacks : List Callback)
    (s : Session) : (s.withTimer p timer callbacks).pages[q]? = (s.pages[q]?).map fun old =>
      if p = q then old.mapDashboard (fun d => { d with timer := timer }) else old := by
  unfold withTimer
  rw [List.getElem?_modify]
  rfl

/-- Another timer leaves the kinds of pages alone. -/
theorem kindOf_withTimer (p q : Nat) (timer : Option Nat) (callbacks : List Callback)
    (s : Session) : (s.withTimer p timer callbacks).kindOf q = s.kindOf q := by
  unfold kindOf
  rw [getElem?_withTimer]
  rcases s.pages[q]? with _ | old
  · rfl
  · simp only [Option.map_some]
    split <;> simp

namespace Sound

variable {s t : Session}

/-- The timers of pages, with another one for the current dashboard. -/
theorem timerOf_withTimer (hs : s.Sound) {p : Nat} (hp : s.current = some p)
    (hkind : s.kindOf p = some .dashboard) (q : Nat) (timer : Option Nat)
    (callbacks : List Callback) :
    (s.withTimer p timer callbacks).timerOf q = if p = q then timer else none := by
  unfold timerOf
  rw [getElem?_withTimer]
  by_cases hpq : p = q
  · subst hpq
    obtain ⟨old, hold, hdashboard⟩ := Option.map_eq_some_iff.mp hkind
    obtain ⟨d, hbody⟩ := body_of_dashboard (hs.own old (List.mem_of_getElem? hold)) hdashboard
    simp [hold, Page.timer?, Page.dashboard?, Page.mapDashboard, hbody]
  · rcases hn : s.timerOf q with _ | n
    · simpa [hpq, timerOf] using hn
    · exact absurd (Option.some_inj.mp (hp.symm.trans (hs.timer q n hn).1)) hpq

/-- **Another timer for the current dashboard keeps the invariant**, if what happens when it is up
is to refresh that.

**Proof sketch.** The change is that of one page's timer and of the callbacks. Every page is
otherwise as it was, so the fields on pages, on the screen and on waiting requests go over from the
old page (`hpages`, `hkinds`). The field on timers is the hypothesis on the new one, since the
current dashboard was the only owner. -/
theorem withTimer (hs : s.Sound) {p : Nat} (hp : s.current = some p)
    (hkind : s.kindOf p = some .dashboard) {timer : Option Nat} {callbacks : List Callback}
    (htimer : ∀ n, timer = some n → ∃ k, n = k + 1 ∧ callbacks[k]? = some ⟨p, false⟩) :
    (s.withTimer p timer callbacks).Sound := by
  have hpages : ∀ {q : Nat} {new : Page}, (s.withTimer p timer callbacks).pages[q]? = some new →
      ∃ old, s.pages[q]? = some old ∧ new.isActive = old.isActive ∧
        new.hasContext = old.hasContext ∧ new.body.IsOwn := by
    intro q new hnew
    rw [getElem?_withTimer] at hnew
    obtain ⟨old, hold, rfl⟩ := Option.map_eq_some_iff.mp hnew
    have hown := hs.own old (List.mem_of_getElem? hold)
    refine ⟨old, hold, ?_⟩
    split
    · refine ⟨?_, ?_, Page.isOwn_mapDashboard hown⟩
      all_goals obtain ⟨body, hasContext, isActive⟩ := old; cases body <;> rfl
    · exact ⟨rfl, rfl, hown⟩
  have hkinds : ∀ q kind, s.kindOf q = some kind →
      (s.withTimer p timer callbacks).kindOf q = some kind := fun q kind h =>
    (kindOf_withTimer p q timer callbacks s).trans h
  refine ⟨hs.alive, hs.script, hs.plans, ?_, ?_, ?_, ?_, hs.logout, ?_, ?_, ?_, hs.shown⟩
  · intro new hnew
    obtain ⟨q, hq⟩ := List.getElem?_of_mem hnew
    obtain ⟨old, -, -, -, hown⟩ := hpages hq
    exact hown
  · intro q new hq
    obtain ⟨old, hold, hactive, -⟩ := hpages hq
    rw [hactive]
    exact hs.active q old hold
  · intro new hnew hactive
    obtain ⟨q, hq⟩ := List.getElem?_of_mem hnew
    obtain ⟨old, hold, hsame, hcontext, -⟩ := hpages hq
    rw [hcontext]
    exact hs.context old (List.mem_of_getElem? hold) (hsame ▸ hactive)
  · exact hs.screen.congr rfl hkinds rfl rfl fun _ => rfl
  · intro q n hn
    rw [hs.timerOf_withTimer hp hkind] at hn
    split at hn
    · next hpq =>
      subst hpq hn
      exact ⟨hp, rfl, htimer n rfl⟩
    · exact absurd hn (by simp)
  · intro hne
    cases timer with
    | none => exact absurd rfl hne
    | some n => exact ⟨p, n, by simp [hs.timerOf_withTimer hp hkind]⟩
  · intro e he
    exact (hs.waiting e he).mono rfl hkinds

/-- **Setting a timer** for the current page: the timer that is due is cancelled, and the new one is
due in its place.

**Proof sketch.** The timer of a page is due if and only if it is the one of the session
(`timers_of_timerOf`), so cancelling it leaves none. Of the two changes of the page, the second one
hides the first. -/
theorem schedule_eq (hs : s.Sound) {p : Nat} (hp : s.current = some p) :
    s.schedule p = ((s.timerOf p).elim s fun n => s.emit (.cancelled n)).withTimer p
      (some (s.callbacks.length + 1)) (s.callbacks ++ [⟨p, false⟩]) := by
  have hmodify : ((s.pages.modify p (Page.mapDashboard fun d => { d with timer := none })).modify p
      (Page.mapDashboard fun d => { d with timer := some (s.callbacks.length + 1) })) =
      s.pages.modify p
        (Page.mapDashboard fun d => { d with timer := some (s.callbacks.length + 1) }) := by
    rw [List.modify_modify_eq]
    congr 1
    funext page
    obtain ⟨body, hasContext, isActive⟩ := page
    cases body <;> rfl
  have htimers : ((s.timerOf p).elim s.timers fun n => s.timers.filter fun t => t.number != n) =
      [] := by
    rw [hs.timers_of_timerOf hp]
    rcases s.timerOf p with _ | n <;> simp
  unfold schedule
  rw [cancelTimer_eq, htimers]
  rcases s.timerOf p with _ | n
  · simp [Session.withTimer, modifyDashboard, modifyPage, hmodify]
  · simp [Session.withTimer, modifyDashboard, modifyPage, hmodify, emit]

/-- A page with a timer is a dashboard. -/
theorem kindOf_of_timerOf {p n : Nat} (hn : s.timerOf p = some n) :
    s.kindOf p = some .dashboard := by
  obtain ⟨page, hpage, hn⟩ := Option.bind_eq_some_iff.mp hn
  obtain ⟨body, hasContext, isActive⟩ := page
  cases body with
  | dashboard d => simp [kindOf, hpage, Page.kind]
  | login message => exact absurd hn (by simp [Page.timer?, Page.dashboard?])
  | probe name kind hidesMenu => exact absurd hn (by simp [Page.timer?, Page.dashboard?])

/-- **All timers that are due are up.** If there is one, the current dashboard owns it: it then has
none and asks for the inventory.

**Proof sketch.** A timer that is due has an owner, which is the current dashboard, and is the only
one due. Its callback finds the page active, without the timer and still sound (`withTimer`), and
sends the next request. -/
theorem apply_elapse (hs : s.Sound) :
    (s.timers = [] ∧ s.apply .elapse = s) ∨
      ∃ p k, s.current = some p ∧ s.kindOf p = some .dashboard ∧ s.timerOf p = some (k + 1) ∧
        s.apply .elapse = (s.withTimer p none
          (s.callbacks.modify k fun c => { c with isSpent := true })).asking
            (.refresh p) .inventory := by
  by_cases hne : s.timers = []
  · refine .inl ⟨hne, ?_⟩
    simp only [apply, begin, hne, List.map_nil, run_nil]
    rw [← hne]
  · obtain ⟨p, n, hn⟩ := hs.owner hne
    obtain ⟨hp, htimers, k, rfl, hcallback⟩ := hs.timer p n hn
    have hkind := kindOf_of_timerOf hn
    have hsound : (s.withTimer p none
        (s.callbacks.modify k fun c => { c with isSpent := true })).Sound :=
      hs.withTimer hp hkind (by simp)
    have hactive := (hsound.isSome_active?_iff p).mpr hp
    refine .inr ⟨p, k, hp, hkind, hn, ?_⟩
    have htick : { s with timers := [] }.tick k =
        (s.withTimer p none (s.callbacks.modify k fun c => { c with isSpent := true }),
          [.send (.refresh p) .inventory]) := by
      unfold tick
      simp only [hcallback]
      exact if_pos hactive
    simp only [apply, begin, htimers, List.map_cons, List.map_nil, Nat.add_sub_cancel, run_cons,
      perform, htick, send_eq hsound.script, List.append_nil, run_nil]

end Sound

/-! ## Other certificates -/

/-- **Rendering a dashboard is a quiet change** as long as its region is visible. -/
theorem quiet_repaint {s : Session} (h : s.isVisible .certificatePanel = some true) (p : Nat) :
    Quiet s (s.renderDashboard p) := by
  unfold renderDashboard
  split
  · exact .refl s
  · next d _ =>
    split
    · exact .refl s
    · next certificates _ =>
      have hrender := Quiet.emit (e := .render .certificatePanel
        (inventoryView s.now (d.horizon.getD s.services.tuning.horizon) certificates))
        ⟨fun _ => rfl, rfl⟩ s
      exact hrender.trans (.visible ((hrender.isVisible_eq _).trans h))

/-- **Rendering a dashboard** changes the trace only. -/
theorem exists_renderDashboard (p : Nat) (s : Session) :
    ∃ trace, s.renderDashboard p = { s with trace := trace } := by
  unfold renderDashboard
  split
  · exact ⟨s.trace, rfl⟩
  · split
    · exact ⟨s.trace, rfl⟩
    · exact ⟨_, rfl⟩

/-- Rendering a dashboard leaves the requests alone. -/
theorem wire_renderDashboard (p : Nat) (s : Session) : (s.renderDashboard p).wire = s.wire := by
  obtain ⟨trace, hrender⟩ := s.exists_renderDashboard p
  rw [hrender]

/-- Changing the horizon leaves the requests alone. -/
theorem wire_toggle (p : Nat) (s : Session) : (s.toggle p).wire = s.wire := by
  unfold toggle
  split
  · rfl
  · exact wire_renderDashboard p _

/-- **Changing the horizon is a quiet change.**

**Proof sketch.** Nothing happens to a page that does not answer. One that does is the current one
and a dashboard, so its region is visible already (`dashboardScreen`), and rendering into it again
is a quiet change (`quiet_repaint`). -/
theorem Sound.quiet_toggle {s : Session} (hs : s.Sound) (p : Nat) : Quiet s (s.toggle p) := by
  unfold toggle
  split
  · exact .refl s
  · next d hd =>
    obtain ⟨page, hpage, hdashboard⟩ := Option.bind_eq_some_iff.mp hd
    have hp := (hs.isSome_active?_iff p).mp (by simp [hpage])
    have hkind : s.kindOf p = some .dashboard := by
      have hpage : s.pages[p]? = some page := by
        unfold active? at hpage
        split at hpage
        · exact (Option.filter_eq_some_iff.mp hpage).1
        · exact absurd hpage (by simp)
      obtain ⟨body, hasContext, isActive⟩ := page
      cases body with
      | dashboard d => simp [kindOf, hpage, Page.kind]
      | login message => exact absurd hdashboard (by simp [Page.dashboard?])
      | probe name kind hidesMenu => exact absurd hdashboard (by simp [Page.dashboard?])
    have hchange := (Quiet.log (.horizonToggled (s.otherHorizon d.horizon)) s).trans
      (.modifyDashboard p (f := fun old => { old with horizon := some (s.otherHorizon d.horizon) })
        (fun _ => rfl) _)
    refine hchange.trans (quiet_repaint ?_ p)
    exact (hchange.isVisible_eq _).trans (hs.dashboardScreen hp hkind).certificatePanel

end Session

end CertDashboard
