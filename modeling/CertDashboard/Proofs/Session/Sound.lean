import CertDashboard.Proofs.Session.Quiet

set_option autoImplicit false
set_option relaxedAutoImplicit false

/-!
# The invariant of a live session

## Main definitions

* `CertDashboard.Session.BlankScreen`, `LoginScreen`, `DashboardScreen` — what there is to see, and
  what the gestures are bound to, with no current page and with one of either kind.
* `CertDashboard.Session.Sound` — the invariant.

## Main results

* `CertDashboard.Session.Sound.quiet` — quiet changes keep the invariant.
* `CertDashboard.Session.Sound.isSome_active?_iff` — the pages that answer are the current ones.

## Design

A dashboard that is current, its timer, the timers that are due and what happens when they are up
say the same thing in four places. `Sound.timer` and `Sound.owner` tie them together.
-/

namespace CertDashboard

namespace Session

/-! ## What there is to see -/

/-- **No page is current**, and nothing of a page is to be seen. -/
structure BlankScreen (s : Session) : Prop where
  /-- No page is current. -/
  current : s.current = none
  /-- The region of the login form is not visible. -/
  loginPanel : s.isVisible .loginPanel ≠ some true
  /-- The region of the certificates is not visible. -/
  certificatePanel : s.isVisible .certificatePanel ≠ some true
  /-- The login form cannot be submitted. -/
  submit : s.bindings .loginSubmit = none
  /-- The horizon cannot be changed. -/
  toggle : s.bindings .toggleHorizon = none

/-- **A login form is current**, and to be seen. -/
structure LoginScreen (p : Nat) (s : Session) : Prop where
  /-- The page is current. -/
  current : s.current = some p
  /-- It is a login form. -/
  kind : s.kindOf p = some .login
  /-- Its region is visible. -/
  loginPanel : s.isVisible .loginPanel = some true
  /-- The menu is hidden. -/
  hamburgerMenu : s.isVisible .hamburgerMenu = some false
  /-- The region of the certificates is not visible. -/
  certificatePanel : s.isVisible .certificatePanel ≠ some true
  /-- This form can be submitted. -/
  submit : s.bindings .loginSubmit = some (.submit p)
  /-- The horizon cannot be changed. -/
  toggle : s.bindings .toggleHorizon = none

/-- **A dashboard is current**, and to be seen. -/
structure DashboardScreen (p : Nat) (s : Session) : Prop where
  /-- The page is current. -/
  current : s.current = some p
  /-- It is a dashboard. -/
  kind : s.kindOf p = some .dashboard
  /-- Its region is visible. -/
  certificatePanel : s.isVisible .certificatePanel = some true
  /-- The menu is shown. -/
  hamburgerMenu : s.isVisible .hamburgerMenu = some true
  /-- The region of the login form is not visible. -/
  loginPanel : s.isVisible .loginPanel ≠ some true
  /-- The horizon of this dashboard can be changed. -/
  toggle : s.bindings .toggleHorizon = some (.toggle p)
  /-- The login form cannot be submitted. -/
  submit : s.bindings .loginSubmit = none

/-- What there is to see fits the current page. -/
inductive Screen (s : Session) : Prop where
  /-- No page is current. -/
  | blank : BlankScreen s → Screen s
  /-- A login form is current. -/
  | login (p : Nat) : LoginScreen p s → Screen s
  /-- A dashboard is current. -/
  | dashboard (p : Nat) : DashboardScreen p s → Screen s

/-- What there is to see with a page that is current: a login form or a dashboard. -/
theorem Screen.of_current {s : Session} (h : Screen s) {p : Nat} (hp : s.current = some p) :
    LoginScreen p s ∨ DashboardScreen p s := by
  cases h with
  | blank b => exact absurd (hp.symm.trans b.current) (by simp)
  | login q l =>
    obtain rfl : p = q := Option.some_inj.mp (hp.symm.trans l.current)
    exact .inl l
  | dashboard q d =>
    obtain rfl : p = q := Option.some_inj.mp (hp.symm.trans d.current)
    exact .inr d

/-- What there is to see fits as long as it is the same and pages keep their kind.

**Proof sketch.** By what there is to see: nothing, a form or a dashboard. Each of these speaks of
the current page, its kind, two bindings and the visible regions, and of nothing else, so its fields
go over one by one. -/
theorem Screen.congr {s t : Session} (h : Screen s) (hcurrent : t.current = s.current)
    (hkind : ∀ p kind, s.kindOf p = some kind → t.kindOf p = some kind)
    (hsubmit : t.bindings .loginSubmit = s.bindings .loginSubmit)
    (htoggle : t.bindings .toggleHorizon = s.bindings .toggleHorizon)
    (hvisible : ∀ surface, t.isVisible surface = s.isVisible surface) : Screen t := by
  cases h with
  | blank b =>
    refine .blank ⟨hcurrent.trans b.current, ?_, ?_, hsubmit.trans b.submit,
      htoggle.trans b.toggle⟩
    · rw [hvisible]
      exact b.loginPanel
    · rw [hvisible]
      exact b.certificatePanel
  | login p l =>
    refine .login p ⟨hcurrent.trans l.current, hkind p _ l.kind,
      (hvisible _).trans l.loginPanel, (hvisible _).trans l.hamburgerMenu, ?_,
      hsubmit.trans l.submit, htoggle.trans l.toggle⟩
    rw [hvisible]
    exact l.certificatePanel
  | dashboard p d =>
    refine .dashboard p ⟨hcurrent.trans d.current, hkind p _ d.kind,
      (hvisible _).trans d.certificatePanel, (hvisible _).trans d.hamburgerMenu, ?_,
      htoggle.trans d.toggle, hsubmit.trans d.submit⟩
    rw [hvisible]
    exact d.loginPanel

/-! ## The invariant -/

/-- **A request fits what it is for**: its call is the one that is made for that, by a page that
makes it. -/
def Fits (s : Session) (request : Api.Request) : Purpose → Prop
  | .firstPage => request = s.services.client.request .authMethod
  | .login p =>
    s.kindOf p = some .login ∧
      ∃ credentials, request = s.services.client.request (.login credentials)
  | .refresh p => s.kindOf p = some .dashboard ∧ request = s.services.client.request .inventory

/-- **The invariant of a live session.** -/
structure Sound (s : Session) : Prop where
  /-- Pages can be displayed. -/
  alive : s.isAlive = true
  /-- No reply is there before its request. -/
  script : s.script = []
  /-- No page plans to display another one. -/
  plans : s.plans = []
  /-- All pages are login forms and dashboards. -/
  own : ∀ page ∈ s.pages, page.body.IsOwn
  /-- The current page is the active one. -/
  active : ∀ p page, s.pages[p]? = some page → (page.isActive = true ↔ s.current = some p)
  /-- An active page has a context. -/
  context : ∀ page ∈ s.pages, page.isActive = true → page.hasContext = true
  /-- What there is to see fits the current page. -/
  screen : Screen s
  /-- Logging out logs out. -/
  logout : ∀ handler, s.bindings .logout = some handler → handler = .logout
  /-- A page with a timer is current, and its timer is the one that is due. -/
  timer : ∀ p n, s.timerOf p = some n → s.current = some p ∧
    s.timers = [⟨n, s.services.tuning.refreshSeconds⟩] ∧
      ∃ k, n = k + 1 ∧ s.callbacks[k]? = some ⟨p, false⟩
  /-- A timer that is due is the timer of a page. -/
  owner : s.timers ≠ [] → ∃ p n, s.timerOf p = some n
  /-- The requests that wait fit what they are for. -/
  waiting : ∀ e ∈ s.wire.waiting, s.Fits e.1 e.2
  /-- The current page was displayed. -/
  shown : ∀ p, s.current = some p → p ∈ s.shown

/-! ## Pages -/

/-- A page is found in its place behind a quiet change, with the outline that it had. -/
theorem Quiet.exists_page {s t : Session} (h : Quiet s t) {p : Nat} {old : Page}
    (hold : s.pages[p]? = some old) :
    ∃ page, t.pages[p]? = some page ∧ page.outline = old.outline := by
  obtain ⟨made, hmade, -⟩ := h.pages
  have hlt := (List.getElem?_eq_some_iff.mp hold).1
  have houtline : (t.pages.map Page.outline)[p]? = some old.outline := by
    rw [hmade, List.getElem?_map, List.getElem?_append_left hlt, hold, Option.map_some]
  rw [List.getElem?_map] at houtline
  exact Option.map_eq_some_iff.mp houtline

/-- The kind of a page stays with a quiet change. -/
theorem Quiet.kindOf {s t : Session} (h : Quiet s t) {p : Nat} {kind : PageKind}
    (hkind : s.kindOf p = some kind) : t.kindOf p = some kind := by
  unfold Session.kindOf at hkind ⊢
  obtain ⟨old, hold, rfl⟩ := Option.map_eq_some_iff.mp hkind
  obtain ⟨page, hpage, heq⟩ := h.exists_page hold
  rw [hpage, Option.map_some, (Page.of_outline_eq heq).1]

/-- What a request fits stays as long as pages keep their kind. -/
theorem Fits.mono {s t : Session} {request : Api.Request} {purpose : Purpose}
    (hfits : s.Fits request purpose) (hservices : t.services = s.services)
    (hkind : ∀ p kind, s.kindOf p = some kind → t.kindOf p = some kind) :
    t.Fits request purpose := by
  unfold Fits at hfits ⊢
  rw [hservices]
  cases purpose with
  | firstPage => exact hfits
  | login p => exact ⟨hkind p _ hfits.1, hfits.2⟩
  | refresh p => exact ⟨hkind p _ hfits.1, hfits.2⟩

/-- A login form has a message or none. -/
theorem body_of_login {page : Page} (hown : page.body.IsOwn) (hkind : page.kind = .login) :
    ∃ message, page.body = .login message := by
  obtain ⟨body, hasContext, isActive⟩ := page
  cases body with
  | login message => exact ⟨message, rfl⟩
  | dashboard d => exact absurd hkind (by simp [Page.kind])
  | probe name kind hidesMenu => exact hown.elim

/-- A dashboard is one. -/
theorem body_of_dashboard {page : Page} (hown : page.body.IsOwn) (hkind : page.kind = .dashboard) :
    ∃ d, page.body = .dashboard d := by
  obtain ⟨body, hasContext, isActive⟩ := page
  cases body with
  | login message => exact absurd hkind (by simp [Page.kind])
  | dashboard d => exact ⟨d, rfl⟩
  | probe name kind hidesMenu => exact hown.elim

/-- A page that is current or kept from outside is held. -/
theorem mem_live_of_mem_roots {s : Session} {p : Nat} (h : p ∈ s.roots) : p ∈ s.live := by
  unfold live
  induction List.range s.pages.length with
  | nil => exact h
  | cons q ps ih =>
    rw [List.foldr_cons]
    split
    · exact List.mem_append_left _ ih
    · exact ih

namespace Sound

variable {s t : Session}

/-- The current page has a context, and is a page. -/
theorem exists_page (hs : s.Sound) {p : Nat} (hp : s.current = some p) :
    ∃ page, s.pages[p]? = some page ∧ page.isActive = true ∧ page.hasContext = true := by
  obtain ⟨kind, hkind⟩ : ∃ kind, s.kindOf p = some kind := by
    rcases hs.screen.of_current hp with h | h
    · exact ⟨_, h.kind⟩
    · exact ⟨_, h.kind⟩
  obtain ⟨page, hpage, -⟩ := Option.map_eq_some_iff.mp hkind
  have hactive := (hs.active p page hpage).mpr hp
  exact ⟨page, hpage, hactive, hs.context page (List.mem_of_getElem? hpage) hactive⟩

/-- **The pages that answer are the current ones.**

**Proof sketch.** A page that answers is live and active, and the invariant says that the active
page is the current one. The current page in turn is active, and it is live because it is a root. -/
theorem isSome_active?_iff (hs : s.Sound) (p : Nat) :
    (s.active? p).isSome = true ↔ s.current = some p := by
  constructor
  · intro h
    unfold active? at h
    split at h
    · obtain ⟨page, hpage⟩ := Option.isSome_iff_exists.mp h
      obtain ⟨hpage, hactive⟩ := Option.filter_eq_some_iff.mp hpage
      exact (hs.active p page hpage).mp hactive
    · exact absurd h (by simp)
  · intro hp
    obtain ⟨page, hpage, hactive, -⟩ := hs.exists_page hp
    have hlive : s.isLive p = true :=
      decide_eq_true (mem_live_of_mem_roots (by simp [roots, hp]))
    simp [active?, hlive, hpage, hactive]

/-- What there is to see with a login form that is current. -/
theorem loginScreen (hs : s.Sound) {p : Nat} (hp : s.current = some p)
    (hkind : s.kindOf p = some .login) : LoginScreen p s := by
  rcases hs.screen.of_current hp with h | h
  · exact h
  · exact absurd (hkind.symm.trans h.kind) (by simp)

/-- What there is to see with a dashboard that is current. -/
theorem dashboardScreen (hs : s.Sound) {p : Nat} (hp : s.current = some p)
    (hkind : s.kindOf p = some .dashboard) : DashboardScreen p s := by
  rcases hs.screen.of_current hp with h | h
  · exact absurd (hkind.symm.trans h.kind) (by simp)
  · exact h

/-- A page behind a quiet change is one from before, up to what only its views depend on, or was
just made and is not current.

**Proof sketch.** A quiet change keeps the outlines of pages and may put new pages behind them. So a
page is found at its old place, with the outline of the old one, or among the new ones. The current
page is an old one, so no new page is current. -/
theorem page_quiet (hs : s.Sound) (h : Quiet s t) {p : Nat} {page : Page}
    (hpage : t.pages[p]? = some page) :
    (∃ old, s.pages[p]? = some old ∧ page.outline = old.outline) ∨
      (page.body.IsOwn ∧ page.isActive = false ∧ page.timer? = none ∧ s.current ≠ some p) := by
  obtain ⟨made, hmade, hfresh⟩ := h.pages
  have houtline : ((s.pages ++ made).map Page.outline)[p]? = some page.outline := by
    rw [← hmade, List.getElem?_map, hpage, Option.map_some]
  rw [List.getElem?_map] at houtline
  obtain ⟨old, hold, heq⟩ := Option.map_eq_some_iff.mp houtline
  rw [List.getElem?_append] at hold
  split at hold
  · exact .inl ⟨old, hold, heq.symm⟩
  · next hle =>
    obtain ⟨hown, hactive, htimer⟩ := (hfresh old (List.mem_of_getElem? hold)).spec
    obtain ⟨-, -, hactive', htimer', hown'⟩ := Page.of_outline_eq heq
    refine .inr ⟨hown'.mp hown, hactive' ▸ hactive, htimer' ▸ htimer, fun hp => ?_⟩
    obtain ⟨current, hcurrent, -⟩ := hs.exists_page hp
    exact hle (List.getElem?_eq_some_iff.mp hcurrent).1

/-- The timer of a page is the same behind a quiet change.

**Proof sketch.** The timer is part of the outline, so an old page has the same one as before
(`page_quiet`). A new page has none, and no old page is lost (`Quiet.exists_page`). -/
theorem timerOf_quiet (hs : s.Sound) (h : Quiet s t) {p n : Nat} :
    t.timerOf p = some n ↔ s.timerOf p = some n := by
  constructor
  · intro hn
    obtain ⟨page, hpage, hn⟩ := Option.bind_eq_some_iff.mp hn
    rcases hs.page_quiet h hpage with ⟨old, hold, heq⟩ | ⟨-, -, htimer, -⟩
    · exact Option.bind_eq_some_iff.mpr ⟨old, hold, (Page.of_outline_eq heq).2.2.2.1 ▸ hn⟩
    · exact absurd (htimer.symm.trans hn) (by simp)
  · intro hn
    obtain ⟨old, hold, hn⟩ := Option.bind_eq_some_iff.mp hn
    obtain ⟨page, hpage, heq⟩ := h.exists_page hold
    exact Option.bind_eq_some_iff.mpr ⟨page, hpage, (Page.of_outline_eq heq).2.2.2.1 ▸ hn⟩

/-- **A quiet change keeps the invariant.**

**Proof sketch.** Field by field of the invariant. What is said of pages is said of an old page with
the same outline, or of a new one, which has neither timer nor activity (`page_quiet`). What is said
of the rest depends on the core, which is the same behind the change; requests that wait were
waiting before. -/
theorem quiet (hs : s.Sound) (h : Quiet s t) : t.Sound := by
  refine ⟨(congrArg Core.isAlive h.core).trans hs.alive,
    (congrArg Core.script h.core).trans hs.script, (congrArg Core.plans h.core).trans hs.plans,
    ?_, ?_, ?_, ?_, ?_, ?_, ?_, ?_, ?_⟩
  · intro page hpage
    obtain ⟨p, hp⟩ := List.getElem?_of_mem hpage
    rcases hs.page_quiet h hp with ⟨old, hold, heq⟩ | ⟨hown, -⟩
    · exact (Page.of_outline_eq heq).2.2.2.2.mpr (hs.own old (List.mem_of_getElem? hold))
    · exact hown
  · intro p page hp
    rw [h.current_eq]
    rcases hs.page_quiet h hp with ⟨old, hold, heq⟩ | ⟨-, hactive, -, hne⟩
    · rw [(Page.of_outline_eq heq).2.2.1]
      exact hs.active p old hold
    · simp [hactive, hne]
  · intro page hpage hactive
    obtain ⟨p, hp⟩ := List.getElem?_of_mem hpage
    rcases hs.page_quiet h hp with ⟨old, hold, heq⟩ | ⟨-, hinactive, -, -⟩
    · obtain ⟨-, hcontext, hsame, -⟩ := Page.of_outline_eq heq
      rw [hcontext]
      exact hs.context old (List.mem_of_getElem? hold) (hsame ▸ hactive)
    · exact absurd (hinactive.symm.trans hactive) (by simp)
  · exact hs.screen.congr h.current_eq (fun _ _ => h.kindOf) (congrArg Core.submit h.core)
      (congrArg Core.toggle h.core) h.isVisible_eq
  · intro handler hhandler
    rcases h.logout with heq | heq
    · exact hs.logout handler (heq ▸ hhandler)
    · exact Option.some_inj.mp (hhandler.symm.trans heq)
  · intro p n hn
    rw [h.current_eq, h.timers_eq, h.services_eq, h.callbacks_eq]
    exact hs.timer p n ((hs.timerOf_quiet h).mp hn)
  · intro hne
    obtain ⟨p, n, hn⟩ := hs.owner (h.timers_eq ▸ hne)
    exact ⟨p, n, (hs.timerOf_quiet h).mpr hn⟩
  · intro e he
    exact (hs.waiting e (h.waiting.mem he)).mono h.services_eq fun _ _ => h.kindOf
  · intro p hp
    rw [h.shown_eq]
    exact hs.shown p (h.current_eq.symm.trans hp)

/-- The kind of the current page is the same behind a quiet change. -/
theorem kindOf_quiet (hs : s.Sound) (h : Quiet s t) {p : Nat} (hp : s.current = some p) :
    t.kindOf p = s.kindOf p := by
  obtain ⟨page, hpage, -⟩ := hs.exists_page hp
  have hkind : s.kindOf p = some page.kind := by simp [kindOf, hpage]
  rw [hkind, h.kindOf hkind]

end Sound

end Session

end CertDashboard
