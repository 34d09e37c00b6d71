import CertDashboard.Proofs.Session.Sound
import Mathlib.Logic.Basic
import Mathlib.Tactic.ByContra

set_option autoImplicit false
set_option relaxedAutoImplicit false

/-!
# Displaying a page

## Main definitions

* `CertDashboard.Session.farewell`, `CertDashboard.Session.greeting` — what there is to see of a
  page that leaves the screen, and of one that comes to it.
* `CertDashboard.Session.left` — the session behind the current page leaving the screen.
* `CertDashboard.Session.showing` — the session behind the display of a page, as one change.

## Main results

* `CertDashboard.Session.Sound.leave_eq`, `CertDashboard.Session.Sound.run_display` — leaving the
  current page and displaying a page are these changes.
* `CertDashboard.Session.Sound.showing` — displaying a page keeps the invariant.
-/

namespace CertDashboard

namespace Page

/-- A page that left the screen: not active, and without a timer. -/
def retired (page : Page) : Page :=
  { page.mapDashboard (fun d => { d with timer := none }) with isActive := false }

/-- A page that came to the screen: active, with a context, and with the horizon of the collapsed
view if it is a dashboard. -/
def entered (horizon : Horizon) (page : Page) : Page :=
  { page.mapDashboard (fun d => { d with horizon := some horizon }) with
    hasContext := true, isActive := true }

/-- The gesture that a page binds. -/
def gesture (page : Page) : Gesture :=
  match page.kind with
  | .login => .loginSubmit
  | .dashboard => .toggleHorizon

/-- What a page binds its gesture to. -/
def handler (p : Nat) (page : Page) : Handler :=
  match page.kind with
  | .login => .submit p
  | .dashboard => .toggle p

/-- No page has the gesture to log out. -/
theorem gesture_ne_logout (page : Page) : page.gesture ≠ .logout := by
  unfold gesture
  cases page.kind <;> simp

/-- A page with another dashboard has the kind that it had. -/
@[simp] theorem kind_mapDashboard (f : Dashboard → Dashboard) (page : Page) :
    (page.mapDashboard f).kind = page.kind := by
  obtain ⟨body, hasContext, isActive⟩ := page
  cases body <;> rfl

/-- A page with another dashboard is still a login form or a dashboard. -/
theorem isOwn_mapDashboard {f : Dashboard → Dashboard} {page : Page} (h : page.body.IsOwn) :
    (page.mapDashboard f).body.IsOwn := by
  obtain ⟨body, hasContext, isActive⟩ := page
  cases body with
  | login message => exact trivial
  | dashboard d => exact trivial
  | probe name kind hidesMenu => exact h.elim

/-- Leaving the screen keeps the kind. -/
@[simp] theorem kind_retired (page : Page) : page.retired.kind = page.kind :=
  kind_mapDashboard _ page

/-- Coming to the screen keeps the kind. -/
@[simp] theorem kind_entered (horizon : Horizon) (page : Page) :
    (page.entered horizon).kind = page.kind :=
  kind_mapDashboard _ page

/-- A page that left the screen has no timer. -/
theorem timer?_retired (page : Page) : page.retired.timer? = none := by
  obtain ⟨body, hasContext, isActive⟩ := page
  cases body <;> rfl

/-- A page that comes to the screen has no timer. -/
theorem timer?_entered (horizon : Horizon) (page : Page) :
    (page.retired.entered horizon).timer? = none := by
  obtain ⟨body, hasContext, isActive⟩ := page
  cases body <;> rfl

end Page

namespace Session

/-! ## Lists with one entry changed -/

/-- Two changes of an entry are the same if they agree on it. -/
theorem modify_congr {α : Type} {l : List α} {i : Nat} {a : α} {f g : α → α}
    (h : l[i]? = some a) (hfg : f a = g a) : l.modify i f = l.modify i g := by
  refine List.ext_getElem? fun j => ?_
  rw [List.getElem?_modify, List.getElem?_modify]
  by_cases hij : i = j
  · subst hij
    simp [h, hfg]
  · simp [hij]

/-! ## Leaving a page -/

/-- Cancelling the timer of a page, as one change.

**Proof sketch.** By whether the page has a timer. With one it is the definition. Without one
nothing happens, so the change of the pages on the right is none: every page but a dashboard is left
as it is, and this one has no timer to take away. -/
theorem cancelTimer_eq (p : Nat) (s : Session) : s.cancelTimer p = { s with
    pages := s.pages.modify p (Page.mapDashboard fun d => { d with timer := none })
    timers := (s.timerOf p).elim s.timers fun n => s.timers.filter fun t => t.number != n
    trace := s.trace ++ (s.timerOf p).toList.map Effect.cancelled } := by
  have htimer : s.timerOf p = (s.pages[p]?.bind Page.dashboard?).bind Dashboard.timer :=
    (Option.bind_assoc _ _ _).symm
  rw [htimer]
  unfold cancelTimer
  split
  · next h =>
    have hpages : s.pages.modify p (Page.mapDashboard fun d => { d with timer := none }) =
        s.pages := by
      refine List.ext_getElem? fun q => ?_
      rw [List.getElem?_modify]
      by_cases hpq : p = q
      · subst hpq
        rcases hp : s.pages[p]? with _ | ⟨body, hasContext, isActive⟩
        · rfl
        · rw [hp] at h
          cases body with
          | login message => simp [Page.mapDashboard]
          | probe name kind hidesMenu => simp [Page.mapDashboard]
          | dashboard d =>
            obtain ⟨horizon, snapshot, timer⟩ := d
            obtain rfl : timer = none := by simpa [Page.dashboard?] using h
            simp [Page.mapDashboard]
      · simp [hpq]
    simp [h, hpages]
  · next number h => simp [h, modifyDashboard, modifyPage, emit]

/-- The kind of the current page. -/
theorem currentKind_of_current {s : Session} {p : Nat} (h : s.current = some p) :
    s.currentKind = s.kindOf p := by
  simp [currentKind, kindOf, h]

/-- What there is to see of the current page as it leaves the screen. -/
def farewell (s : Session) : List Effect :=
  match s.current, s.currentKind with
  | some _, some .login => [.visible .loginPanel false, .unbind .loginSubmit]
  | some p, some .dashboard =>
    (s.timerOf p).toList.map .cancelled ++
      [.unbind .toggleHorizon, .visible .certificatePanel false]
  | _, _ => []

/-- What leaves the screen cancels its timer, takes its gesture away and hides its region. -/
theorem mem_farewell {s : Session} {e : Effect} (h : e ∈ s.farewell) :
    (∃ n, e = .cancelled n) ∨ (∃ g, e = .unbind g) ∨ ∃ surface, e = .visible surface false := by
  unfold farewell at h
  split at h
  · simp only [List.mem_cons, List.not_mem_nil, or_false] at h
    rcases h with rfl | rfl
    · exact .inr (.inr ⟨_, rfl⟩)
    · exact .inr (.inl ⟨_, rfl⟩)
  · simp only [List.mem_append, List.mem_map, List.mem_cons, List.not_mem_nil, or_false] at h
    rcases h with ⟨n, -, rfl⟩ | rfl | rfl
    · exact .inl ⟨n, rfl⟩
    · exact .inr (.inl ⟨_, rfl⟩)
    · exact .inr (.inr ⟨_, rfl⟩)
  · exact absurd h List.not_mem_nil

/-- What is found in none of these effects is not found in the farewell. -/
theorem filterMap_farewell {α : Type} {f : Effect → Option α}
    (hcancelled : ∀ n, f (.cancelled n) = none) (hunbind : ∀ g, f (.unbind g) = none)
    (hvisible : ∀ surface, f (.visible surface false) = none) (s : Session) :
    s.farewell.filterMap f = [] := by
  refine List.filterMap_eq_nil_iff.mpr fun e he => ?_
  rcases mem_farewell he with ⟨n, rfl⟩ | ⟨g, rfl⟩ | ⟨surface, rfl⟩
  · exact hcancelled n
  · exact hunbind g
  · exact hvisible surface

/-- Without a page, a gesture is bound to nothing but logging out. -/
def unbound (s : Session) : Gesture → Option Handler := fun g =>
  if g = .logout then s.bindings .logout else none

/-- What is bound when a page has left the screen, by what is bound to each gesture. -/
theorem eq_unbound {s : Session} {bindings : Gesture → Option Handler}
    (hsubmit : bindings .loginSubmit = none) (htoggle : bindings .toggleHorizon = none)
    (hlogout : bindings .logout = s.bindings .logout) : bindings = s.unbound := by
  funext g
  cases g with
  | loginSubmit => simpa [unbound] using hsubmit
  | toggleHorizon => simpa [unbound] using htoggle
  | logout => simpa [unbound] using hlogout

/-- **The session behind the current page leaving the screen.** -/
def left (s : Session) : Session := { s with
  current := none
  pages := s.pages.map Page.retired
  timers := []
  bindings := s.unbound
  trace := s.trace ++ s.farewell }

namespace Sound

variable {s t : Session}

/-- The timers that are due, when the current page has none. -/
theorem timers_of_timerOf (hs : s.Sound) {p : Nat} (hp : s.current = some p) :
    s.timers = ((s.timerOf p).map fun n => ⟨n, s.services.tuning.refreshSeconds⟩).toList := by
  rcases hn : s.timerOf p with _ | n
  · by_contra hne
    obtain ⟨q, n, hq⟩ := hs.owner hne
    obtain rfl : p = q := Option.some_inj.mp (hp.symm.trans (hs.timer q n hq).1)
    exact absurd (hn.symm.trans hq) (by simp)
  · exact (hs.timer p n hn).2.1

/-- All pages but the current one have left the screen.

**Proof sketch.** By the invariant a page that is not current is neither active nor the owner of a
timer. Retiring takes just these two away. -/
theorem retired_of_ne (hs : s.Sound) {p : Nat} {page : Page} (hpage : s.pages[p]? = some page)
    (hp : s.current ≠ some p) : page.retired = page := by
  have hactive : page.isActive = false := by
    have := (hs.active p page hpage).not.mpr hp
    simpa using this
  have htimer : s.timerOf p = none := by
    rcases hn : s.timerOf p with _ | n
    · rfl
    · exact absurd (hs.timer p n hn).1 hp
  obtain ⟨body, hasContext, isActive⟩ := page
  obtain rfl : isActive = false := hactive
  cases body with
  | login message => rfl
  | probe name kind hidesMenu => rfl
  | dashboard d =>
    obtain ⟨horizon, snapshot, timer⟩ := d
    obtain rfl : timer = none := by
      simpa [timerOf, hpage, Page.timer?, Page.dashboard?] using htimer
    rfl

/-- When the current page has left the screen, all pages have. -/
theorem modify_retired (hs : s.Sound) {p : Nat} (hp : s.current = some p) :
    s.pages.modify p Page.retired = s.pages.map Page.retired := by
  refine List.ext_getElem? fun q => ?_
  rw [List.getElem?_modify, List.getElem?_map]
  rcases hq : s.pages[q]? with _ | page
  · rfl
  · by_cases hpq : p = q
    · simp [hpq]
    · have hne : s.current ≠ some q := fun h => hpq (Option.some_inj.mp (hp.symm.trans h))
      simp [hpq, hs.retired_of_ne hq hne]

/-- Without a current page there is none to leave.

**Proof sketch.** Nothing is current, so no page is active, no timer has an owner, and no gesture of
a page is bound. Each field of `left` is what it was. -/
theorem leave_of_blank (hs : s.Sound) (h : BlankScreen s) : s.leave = s.left := by
  have hpages : s.pages.map Page.retired = s.pages := by
    refine List.ext_getElem? fun q => ?_
    rw [List.getElem?_map]
    rcases hq : s.pages[q]? with _ | page
    · rfl
    · simp [hs.retired_of_ne hq (by simp [h.current])]
  have htimers : s.timers = [] := by
    by_contra hne
    obtain ⟨q, n, hq⟩ := hs.owner hne
    exact absurd ((hs.timer q n hq).1.symm.trans h.current) (by simp)
  have hbindings : s.bindings = s.unbound := eq_unbound h.submit h.toggle rfl
  have hfarewell : s.farewell = [] := by simp [farewell, h.current]
  have hleave : s.leave = s := by simp [leave, h.current]
  rw [hleave, left, hpages, ← hbindings, hfarewell, List.append_nil, ← htimers, ← h.current]

/-- Leaving a login form.

**Proof sketch.** Field by field of `left`. The form is a page of its own with a context, so it is
torn down: its region is hidden and its gesture unbound, as in the farewell. All other pages have
left before (`modify_retired`), and no timer is due. -/
theorem leave_of_login (hs : s.Sound) {p : Nat} (h : LoginScreen p s) : s.leave = s.left := by
  obtain ⟨page, hpage, -, hcontext⟩ := hs.exists_page h.current
  have hkind : page.kind = .login := by simpa [kindOf, hpage] using h.kind
  obtain ⟨message, hbody⟩ := body_of_login (hs.own page (List.mem_of_getElem? hpage)) hkind
  have hpages : s.pages.modify p (fun page => { page with isActive := false }) =
      s.pages.map Page.retired := by
    rw [← hs.modify_retired h.current]
    exact modify_congr hpage (by simp [Page.retired, Page.mapDashboard, hbody])
  have htimers : s.timers = [] := by
    rw [hs.timers_of_timerOf h.current]
    simp [timerOf, hpage, Page.timer?, Page.dashboard?, hbody]
  have hbindings : (fun g => if g = .loginSubmit then none else s.bindings g) = s.unbound :=
    eq_unbound rfl h.toggle rfl
  have hfarewell : s.farewell = [.visible .loginPanel false, .unbind .loginSubmit] := by
    simp [farewell, currentKind, h.current, hpage, hkind]
  rw [left, hfarewell, ← hbindings, ← hpages, ← htimers]
  simp [leave, h.current, teardown, hpage, hbody, hcontext, modifyPage, unbind, emit]

/-- Leaving a dashboard, whose timer is cancelled.

**Proof sketch.** Field by field of `left`, as for a form. The timer of the dashboard is cancelled
if it is due, and then none is left (`timers_of_timerOf`). -/
theorem leave_of_dashboard (hs : s.Sound) {p : Nat} (h : DashboardScreen p s) :
    s.leave = s.left := by
  obtain ⟨page, hpage, -, hcontext⟩ := hs.exists_page h.current
  have hkind : page.kind = .dashboard := by simpa [kindOf, hpage] using h.kind
  obtain ⟨d, hbody⟩ := body_of_dashboard (hs.own page (List.mem_of_getElem? hpage)) hkind
  have hpages : (s.pages.modify p (fun page => { page with isActive := false })).modify p
      (Page.mapDashboard fun d => { d with timer := none }) = s.pages.map Page.retired := by
    rw [← hs.modify_retired h.current, List.modify_modify_eq]
    exact modify_congr hpage (by simp [Page.retired, Page.mapDashboard, hbody])
  have hbindings : (fun g => if g = .toggleHorizon then none else s.bindings g) = s.unbound :=
    eq_unbound h.submit rfl rfl
  -- No timer but that of this page is due, so that cancelling it leaves none.
  have htimers : ((s.timerOf p).elim s.timers fun n => s.timers.filter fun t => t.number != n) =
      [] := by
    rw [hs.timers_of_timerOf h.current]
    rcases s.timerOf p with _ | n <;> simp
  have hfarewell : s.farewell = (s.timerOf p).toList.map .cancelled ++
      [.unbind .toggleHorizon, .visible .certificatePanel false] := by
    simp [farewell, currentKind, h.current, hpage, hkind]
  rw [left, hfarewell, ← hbindings, ← hpages, ← htimers]
  simp [leave, h.current, teardown, hpage, hbody, hcontext, modifyPage, unbind, emit,
    cancelTimer_eq, timerOf, Page.timer?, Page.dashboard?]

/-- **Leaving the current page**, as one change. -/
theorem leave_eq (hs : s.Sound) : s.leave = s.left := by
  cases hs.screen with
  | blank h => exact hs.leave_of_blank h
  | login p h => exact hs.leave_of_login h
  | dashboard p h => exact hs.leave_of_dashboard h

end Sound

/-! ## Coming to the screen -/

/-- What there is to see of a page as it comes to the screen; a dashboard asks for the inventory. -/
def greeting (p : Nat) (page : Page) (s : Session) : List Effect :=
  match page.body with
  | .login message => [.visible .hamburgerMenu false, .render .loginPanel (.login message),
      .bind .loginSubmit (.submit p), .visible .loginPanel true]
  | .dashboard _ => [.visible .hamburgerMenu true, .bind .toggleHorizon (.toggle p),
      .visible .certificatePanel true,
      .log (s.services.client.request .inventory).sentEvent,
      .sent (s.services.client.request .inventory) true]
  | .probe _ _ _ => []

/-- **The session behind the display of a page**: the page is on the screen, and if it is a
dashboard its first request waits. -/
def showing (p : Nat) (page : Page) (s : Session) : Session := { s with
  current := some p
  pages := (s.pages.map Page.retired).modify p (Page.entered s.services.tuning.horizon)
  timers := []
  bindings := fun g => if g = page.gesture then some (page.handler p) else s.unbound g
  wire := match page.kind with
    | .login => s.wire
    | .dashboard => s.wire.park (s.services.client.request .inventory) (.refresh p)
  trace := s.trace ++ [.log (.displayed s.currentKind page.kind)] ++ s.farewell ++
    s.greeting p page }

/-- The effects of a display: its line, the farewell of the page before, and the greeting. -/
theorem trace_showing (p : Nat) (page : Page) (s : Session) : (s.showing p page).trace = s.trace ++
    ([.log (.displayed s.currentKind page.kind)] ++ s.farewell ++ s.greeting p page) := by
  simp [Session.showing]

/-- A page behind the display of a page. -/
theorem getElem?_showing (p q : Nat) (page : Page) (s : Session) :
    (s.showing p page).pages[q]? = (s.pages[q]?).map fun old =>
      if p = q then old.retired.entered s.services.tuning.horizon else old.retired := by
  unfold Session.showing
  rw [List.getElem?_modify, List.getElem?_map]
  by_cases hpq : p = q
  · simp [hpq, Function.comp_def]
  · simp [hpq]

/-- Kinds stay when a page is displayed. -/
theorem kindOf_showing (p q : Nat) (page : Page) (s : Session) :
    (s.showing p page).kindOf q = s.kindOf q := by
  unfold kindOf
  rw [getElem?_showing]
  rcases s.pages[q]? with _ | old
  · rfl
  · simp only [Option.map_some]
    split <;> simp

/-- No page has a timer when a page was just displayed. -/
theorem timerOf_showing (p q : Nat) (page : Page) (s : Session) :
    (s.showing p page).timerOf q = none := by
  unfold timerOf
  rw [getElem?_showing]
  rcases s.pages[q]? with _ | old
  · rfl
  · simp only [Option.map_some, Option.bind_some]
    split
    · exact Page.timer?_entered _ old
    · exact Page.timer?_retired old

/-- The requests that wait behind the display of a page; a dashboard waits for the inventory. -/
theorem waiting_showing (p : Nat) (page : Page) (s : Session) :
    (s.showing p page).wire.waiting = s.wire.waiting ++ match page.kind with
      | .login => []
      | .dashboard => [(s.services.client.request .inventory, .refresh p)] := by
  unfold Session.showing
  cases page.kind <;> simp [Api.Wire.park]

/-- A page behind the display of a page is active if and only if it is the one displayed, and then
has a context. -/
theorem isActive_showing {p q : Nat} {page new : Page} {s : Session}
    (hq : (s.showing p page).pages[q]? = some new) :
    (new.isActive = true ↔ p = q) ∧ (new.isActive = true → new.hasContext = true) := by
  rw [getElem?_showing] at hq
  obtain ⟨old, -, rfl⟩ := Option.map_eq_some_iff.mp hq
  by_cases hpq : p = q
  · simp [hpq, Page.entered]
  · simp [hpq, Page.retired]

/-- Displaying a page that is kept is one task. -/
theorem apply_display_eq {s : Session} {place p : Nat} (h : s.heldAt place = some p) :
    s.apply (.display place) = s.run [.display p] := by
  simp only [apply, begin, h, Option.toList_some, List.map_cons, List.map_nil]

namespace Sound

variable {s t : Session}

/-- **Displaying a page**, as one change.

**Proof sketch.** The page before is left (`leave_eq`). By the kinds of pages the new one then gets
its context, the menu and its activation, and a dashboard sends its request, which waits since there
is no script. -/
theorem run_display (hs : s.Sound) {p : Nat} {page : Page} (hpage : s.pages[p]? = some page) :
    s.run [.display p] = s.showing p page := by
  have hown := hs.own page (List.mem_of_getElem? hpage)
  have hscript := hs.script
  have hretired : (s.pages.map Page.retired)[p]? = some page.retired := by simp [hpage]
  have hleave : ∀ event : Log.Event, (s.log event).leave =
      { s.left with trace := s.trace ++ [.log event] ++ s.farewell } :=
    fun event => (hs.quiet (.log event s)).leave_eq
  obtain ⟨body, hasContext, isActive⟩ := page
  rw [run_cons, List.append_nil]
  simp only [perform, hpage, hs.alive, if_true, display, hleave, left]
  -- A display changes the entry of its page two or three times: here these are one change.
  cases body with
  | login message =>
    have hpages : (s.pages.map Page.retired).modify p
        ((fun page => { page with isActive := true }) ∘
          fun page => { page with hasContext := true }) =
        (s.pages.map Page.retired).modify p (Page.entered s.services.tuning.horizon) :=
      modify_congr hretired rfl
    simp [giveContext, modifyPage, emit, hpage, Page.retired, Page.mapDashboard, Page.hidesMenu,
      activate, activateLogin, bind, showing, greeting, Page.kind, Page.gesture, Page.handler,
      List.modify_modify_eq, hpages, hs.alive]
    rfl
  | dashboard d =>
    have hpages : ((s.pages.map Page.retired).modify p
        ((fun page => { page with isActive := true }) ∘
          fun page => { page with hasContext := true })).modify p
            (Page.mapDashboard fun d => { d with horizon := some s.services.tuning.horizon }) =
        (s.pages.map Page.retired).modify p (Page.entered s.services.tuning.horizon) := by
      rw [List.modify_modify_eq]
      exact modify_congr hretired rfl
    simp [giveContext, modifyPage, modifyDashboard, log, emit, hpage, hscript, Page.retired,
      Page.mapDashboard, Page.hidesMenu, activate, activateDashboard, bind, showing, greeting,
      Page.kind, Page.gesture, Page.handler, perform, send, List.modify_modify_eq, hpages, run_cons,
      hs.alive]
    rfl
  | probe name kind hidesMenu => exact hown.elim

/-- Nothing is to be seen of the current page once it has left the screen.

**Proof sketch.** By what is on the screen. Without a page no region is visible. A form and a
dashboard hide their own region in the farewell, and the other one was not visible before. -/
theorem farewell_hides (hs : s.Sound) {surface : Surface} (hsurface : surface ≠ .hamburgerMenu) :
    (s.farewell.reverse.findSome? (Effect.visibility surface)).or (s.isVisible surface) ≠
      some true := by
  cases hs.screen with
  | blank h =>
    have hfarewell : s.farewell = [] := by simp [farewell, h.current]
    rw [hfarewell]
    cases surface with
    | loginPanel => simpa using h.loginPanel
    | certificatePanel => simpa using h.certificatePanel
    | hamburgerMenu => exact absurd rfl hsurface
  | login p h =>
    have hkind : s.currentKind = some .login := (currentKind_of_current h.current).trans h.kind
    have hfarewell : s.farewell = [.visible .loginPanel false, .unbind .loginSubmit] := by
      simp [farewell, h.current, hkind]
    rw [hfarewell]
    cases surface with
    | loginPanel => simp [List.findSome?_cons, Effect.visibility]
    | certificatePanel =>
      simpa [List.findSome?_cons, Effect.visibility] using h.certificatePanel
    | hamburgerMenu => exact absurd rfl hsurface
  | dashboard p h =>
    have hkind : s.currentKind = some .dashboard := (currentKind_of_current h.current).trans h.kind
    have hfarewell : s.farewell = (s.timerOf p).toList.map .cancelled ++
        [.unbind .toggleHorizon, .visible .certificatePanel false] := by
      simp [farewell, h.current, hkind]
    rw [hfarewell]
    cases surface with
    | loginPanel =>
      have := h.loginPanel
      rcases s.timerOf p with _ | n <;> simpa [List.findSome?_cons, Effect.visibility] using this
    | certificatePanel => simp [Effect.visibility]
    | hamburgerMenu => exact absurd rfl hsurface

/-- **What there is to see behind the display of a page** fits the page.

**Proof sketch.** The regions are what the greeting says last, or else the farewell, or else what
they were (`hvisible`). The greeting shows the region of the page, and the other one is hidden by
then (`farewell_hides`). -/
theorem screen_showing (hs : s.Sound) {p : Nat} {page : Page} (hpage : s.pages[p]? = some page) :
    Screen (s.showing p page) := by
  have hown := hs.own page (List.mem_of_getElem? hpage)
  have hvisible : ∀ surface, (s.showing p page).isVisible surface =
      ((s.greeting p page).reverse.findSome? (Effect.visibility surface)).or
        ((s.farewell.reverse.findSome? (Effect.visibility surface)).or
          (s.isVisible surface)) := by
    intro surface
    rw [isVisible_of_trace (trace_showing p page s)]
    simp [Effect.visibility, Option.or_assoc]
  have hkind : (s.showing p page).kindOf p = some page.kind := by
    rw [kindOf_showing]
    simp [kindOf, hpage]
  obtain ⟨body, hasContext, isActive⟩ := page
  cases body with
  | login message =>
    refine .login p ⟨rfl, hkind, (hvisible _).trans rfl, (hvisible _).trans rfl, ?_, rfl, rfl⟩
    rw [hvisible]
    exact hs.farewell_hides (by simp)
  | dashboard d =>
    refine .dashboard p ⟨rfl, hkind, (hvisible _).trans rfl, (hvisible _).trans rfl, ?_, rfl, rfl⟩
    rw [hvisible]
    exact hs.farewell_hides (by simp)
  | probe name kind hidesMenu => exact hown.elim

/-- The pages that were displayed, behind the display of a page.

**Proof sketch.** The trace grows by a log line, the farewell and the greeting. Only the greeting
displays a page, and that once. -/
theorem shown_showing (hs : s.Sound) {p : Nat} {page : Page} (hpage : s.pages[p]? = some page) :
    (s.showing p page).shown = s.shown ++ [p] := by
  have hown := hs.own page (List.mem_of_getElem? hpage)
  have hfarewell : s.farewell.filterMap Effect.shown? = [] :=
    filterMap_farewell (fun _ => rfl) (fun _ => rfl) (fun _ => rfl) s
  rw [shown_of_trace (trace_showing p page s), List.filterMap_append, List.filterMap_append,
    hfarewell]
  obtain ⟨body, hasContext, isActive⟩ := page
  cases body with
  | login message => rfl
  | dashboard d => rfl
  | probe name kind hidesMenu => exact hown.elim

/-- **Displaying a page keeps the invariant.**

**Proof sketch.** Field by field of the invariant. The pages are the old ones, of which only the new
one is active; the screen is `screen_showing`; no timer is due yet, and the request of a dashboard
fits its page. -/
theorem showing (hs : s.Sound) {p : Nat} {page : Page} (hpage : s.pages[p]? = some page) :
    (s.showing p page).Sound where
  alive := hs.alive
  script := hs.script
  plans := hs.plans
  own := by
    intro new hnew
    obtain ⟨q, hq⟩ := List.getElem?_of_mem hnew
    rw [getElem?_showing] at hq
    obtain ⟨old, hold, rfl⟩ := Option.map_eq_some_iff.mp hq
    have hown := hs.own old (List.mem_of_getElem? hold)
    split
    · exact Page.isOwn_mapDashboard (Page.isOwn_mapDashboard hown)
    · exact Page.isOwn_mapDashboard hown
  active := by
    intro q new hq
    rw [(isActive_showing hq).1]
    exact ⟨congrArg some, Option.some_inj.mp⟩
  context := by
    intro new hnew
    obtain ⟨q, hq⟩ := List.getElem?_of_mem hnew
    exact (isActive_showing hq).2
  screen := hs.screen_showing hpage
  logout := by
    intro handler hhandler
    simp only [Session.showing, if_neg page.gesture_ne_logout.symm, unbound, if_true] at hhandler
    exact hs.logout handler hhandler
  timer := by
    intro q n hn
    rw [timerOf_showing] at hn
    exact absurd hn (by simp)
  owner := fun hne => absurd rfl hne
  waiting := by
    intro e he
    have hfits : ∀ {request purpose}, s.Fits request purpose →
        (s.showing p page).Fits request purpose := fun h =>
      h.mono rfl fun q _ hkind => (kindOf_showing p q page s).trans hkind
    rw [waiting_showing] at he
    rcases List.mem_append.mp he with he | he
    · exact hfits (hs.waiting e he)
    · cases hkind : page.kind with
      | login => simp [hkind] at he
      | dashboard =>
        obtain rfl : e = (s.services.client.request .inventory, .refresh p) := by
          simpa [hkind] using he
        exact hfits ⟨by simp [kindOf, hpage, hkind], rfl⟩
  shown := by
    intro q hq
    obtain rfl : p = q := Option.some_inj.mp hq
    rw [hs.shown_showing hpage]
    simp

end Sound

end Session

end CertDashboard
