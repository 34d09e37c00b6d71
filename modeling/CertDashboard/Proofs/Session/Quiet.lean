import CertDashboard.Proofs.Session.Reachable

set_option autoImplicit false
set_option relaxedAutoImplicit false

/-!
# Quiet changes

Most of what a session does leaves alone which page is current, which regions are visible, what the
gestures of pages are bound to and what is due. Such a change is quiet.

## Main definitions

* `CertDashboard.Page.outline` — a page without what only its views depend on.
* `CertDashboard.Session.Core` — what a quiet change leaves alone, as one record.
* `CertDashboard.Session.Quiet` — a quiet change.

## Main results

* `CertDashboard.Session.isVisible_of_trace`, `CertDashboard.Session.shown_of_trace` — what is seen
  after further effects, from what was seen before and these effects.
* `CertDashboard.Session.Quiet.trans` — quiet changes one after another are one.

## Design

The record holds all that a session is apart from its pages, the requests that wait and what the
program never asks for. Two states are compared by it at once, and so no lemma about a quiet change
has to go through the fields of a session.
-/

namespace CertDashboard

/-! ## Pages -/

/-- A login form or a dashboard. -/
def PageBody.IsOwn : PageBody → Prop
  | .login _ | .dashboard _ => True
  | .probe _ _ _ => False

namespace Page

/-- **A page without what only its views depend on**: the inventory and the horizon. -/
def outline (page : Page) : Page :=
  page.mapDashboard fun d => ⟨none, none, d.timer⟩

/-- A page that was just made. -/
def IsFresh (page : Page) : Prop :=
  ∃ body : PageBody, body.IsNew ∧ page = .fresh body

/-- A page that was just made is a login form or a dashboard, is not active and has no timer. -/
theorem IsFresh.spec {page : Page} (h : page.IsFresh) :
    page.body.IsOwn ∧ page.isActive = false ∧ page.timer? = none := by
  obtain ⟨body, hbody, rfl⟩ := h
  cases body with
  | login message => exact ⟨trivial, rfl, rfl⟩
  | dashboard d =>
    obtain rfl : d = ⟨none, none, none⟩ := hbody
    exact ⟨trivial, rfl, rfl⟩
  | probe name kind hidesMenu => exact hbody.elim

/-- **What the outline of a page shows** of it: all but the inventory and the horizon. -/
theorem of_outline_eq {a b : Page} (h : a.outline = b.outline) :
    a.kind = b.kind ∧ a.hasContext = b.hasContext ∧ a.isActive = b.isActive ∧
      a.timer? = b.timer? ∧ (a.body.IsOwn ↔ b.body.IsOwn) := by
  have hspec : ∀ c : Page, c.outline.kind = c.kind ∧ c.outline.hasContext = c.hasContext ∧
      c.outline.isActive = c.isActive ∧ c.outline.timer? = c.timer? ∧
        (c.outline.body.IsOwn ↔ c.body.IsOwn) := by
    rintro ⟨body, hasContext, isActive⟩
    cases body <;> exact ⟨rfl, rfl, rfl, rfl, Iff.rfl⟩
  obtain ⟨ha, hb⟩ := And.intro (hspec a) (hspec b)
  rw [h] at ha
  exact ⟨ha.1.symm.trans hb.1, ha.2.1.symm.trans hb.2.1, ha.2.2.1.symm.trans hb.2.2.1,
    ha.2.2.2.1.symm.trans hb.2.2.2.1, ha.2.2.2.2.symm.trans hb.2.2.2.2⟩

end Page

namespace Session

/-! ## Effects -/

/-- What an effect says about a region, if it shows or hides it. -/
def Effect.visibility (surface : Surface) : Effect → Option Bool
  | .visible target isVisible => if target = surface then some isVisible else none
  | _ => none

/-- The page whose gesture an effect binds, if it binds one of a page. -/
def Effect.shown? : Effect → Option Nat
  | .bind _ handler => handler.page?
  | _ => none

/-- Whether an effect neither shows nor hides a region and binds no gesture of a page. -/
def Effect.IsQuiet (e : Effect) : Prop :=
  (∀ surface, e.visibility surface = none) ∧ e.shown? = none

/-- Logging is quiet. -/
theorem Effect.isQuiet_log (event : Log.Event) : (Effect.log event).IsQuiet :=
  ⟨fun _ => rfl, rfl⟩

/-- Whether a region is visible, after further effects: the last one that says something about it
decides. -/
theorem isVisible_of_trace {s t : Session} {es : List Effect} (h : t.trace = s.trace ++ es)
    (surface : Surface) : t.isVisible surface =
      (es.reverse.findSome? (Effect.visibility surface)).or (s.isVisible surface) := by
  have heq : ∀ u : Session, u.isVisible surface =
      u.trace.reverse.findSome? (Effect.visibility surface) := by
    intro u
    unfold isVisible
    congr 1
  rw [heq, heq, h, List.reverse_append, List.findSome?_append]

/-- The pages that were displayed, after further effects. -/
theorem shown_of_trace {s t : Session} {es : List Effect} (h : t.trace = s.trace ++ es) :
    t.shown = s.shown ++ es.filterMap Effect.shown? := by
  have heq : ∀ u : Session, u.shown = u.trace.filterMap Effect.shown? := by
    intro u
    unfold shown handlers
    rw [List.filterMap_filterMap]
    congr 1
    funext e
    cases e <;> rfl
  rw [heq, heq, h, List.filterMap_append]

/-! ## Quiet changes -/

/-- **What a quiet change leaves alone.** -/
structure Core where
  /-- What pages are built from. -/
  services : Services
  /-- Whether pages can be displayed. -/
  isAlive : Bool
  /-- Replies that are there before their request. -/
  script : List Api.Reply
  /-- The pages that probes plan to display. -/
  plans : List (Nat × Nat)
  /-- The current page. -/
  current : Option Nat
  /-- The timers that are due. -/
  timers : List Timer
  /-- What happens when each timer is up. -/
  callbacks : List Callback
  /-- What submitting the login form is bound to. -/
  submit : Option Handler
  /-- What asking for more or for fewer certificates is bound to. -/
  toggle : Option Handler
  /-- What is visible. -/
  visible : Surface → Option Bool
  /-- The pages that were displayed. -/
  shown : List Nat

/-- The part of a session that a quiet change leaves alone. -/
def core (s : Session) : Core where
  services := s.services
  isAlive := s.isAlive
  script := s.script
  plans := s.plans
  current := s.current
  timers := s.timers
  callbacks := s.callbacks
  submit := s.bindings .loginSubmit
  toggle := s.bindings .toggleHorizon
  visible := fun surface => s.isVisible surface
  shown := s.shown

/-- A quiet effect leaves the core alone. -/
theorem core_emit {e : Effect} (he : e.IsQuiet) (s : Session) : (s.emit e).core = s.core := by
  have hvisible : ∀ surface, (s.emit e).isVisible surface = s.isVisible surface := by
    intro surface
    rw [isVisible_of_trace (show (s.emit e).trace = s.trace ++ [e] from rfl)]
    simp [he.1 surface]
  have hshown : (s.emit e).shown = s.shown := by
    rw [shown_of_trace (show (s.emit e).trace = s.trace ++ [e] from rfl)]
    simp [he.2]
  simp only [core, hvisible, hshown]
  rfl

/-- Logging leaves the core alone. -/
@[simp] theorem core_log (event : Log.Event) (s : Session) : (s.log event).core = s.core :=
  core_emit (Effect.isQuiet_log event) s

/-- Logging several events, as one change of the trace. -/
theorem foldl_log (events : List Log.Event) (s : Session) :
    events.foldl (fun s e => s.log e) s =
      { s with trace := s.trace ++ events.map Effect.log } := by
  induction events generalizing s with
  | nil => simp
  | cons event events ih =>
    rw [List.foldl_cons, ih]
    simp [log, emit]

/-- Logging several events leaves the core alone. -/
theorem core_foldl_log (events : List Log.Event) (s : Session) :
    (events.foldl (fun s e => s.log e) s).core = s.core := by
  induction events generalizing s with
  | nil => rfl
  | cons event events ih => exact (ih _).trans (core_log event s)

/-- **A quiet change**: pages may have been made, the oldest requests may be gone, a dashboard may
show other certificates, and logging out may be possible now. -/
structure Quiet (s t : Session) : Prop where
  /-- The core is left alone. -/
  core : t.core = s.core
  /-- Pages may have been made, and dashboards may show other certificates. -/
  pages : ∃ made, t.pages.map Page.outline = (s.pages ++ made).map Page.outline ∧
    ∀ page ∈ made, page.IsFresh
  /-- The oldest requests may be gone. -/
  waiting : t.wire.waiting <:+ s.wire.waiting
  /-- Logging out may be possible now. -/
  logout : t.bindings .logout = s.bindings .logout ∨ t.bindings .logout = some .logout

namespace Quiet

/-- No change is quiet. -/
theorem refl (s : Session) : Quiet s s :=
  ⟨rfl, ⟨[], by simp⟩, List.suffix_refl _, .inl rfl⟩

/-- Quiet changes one after another are a quiet change. -/
theorem trans {s t u : Session} (h : Quiet s t) (h' : Quiet t u) : Quiet s u := by
  obtain ⟨made, hmade, hfresh⟩ := h.pages
  obtain ⟨made', hmade', hfresh'⟩ := h'.pages
  refine ⟨h'.core.trans h.core, ⟨made ++ made', ?_, ?_⟩, h'.waiting.trans h.waiting, ?_⟩
  · rw [hmade', List.map_append, hmade, ← List.map_append, List.append_assoc]
  · intro page hpage
    rcases List.mem_append.mp hpage with hpage | hpage
    · exact hfresh page hpage
    · exact hfresh' page hpage
  · rcases h'.logout with h' | h'
    · rw [h']
      exact h.logout
    · exact .inr h'

section Core

variable {s t : Session}

/-- Behind a quiet change pages are built from the same. -/
theorem services_eq (h : Quiet s t) : t.services = s.services :=
  congrArg Core.services h.core

/-- Behind a quiet change the same page is current. -/
theorem current_eq (h : Quiet s t) : t.current = s.current :=
  congrArg Core.current h.core

/-- Behind a quiet change the same timers are due. -/
theorem timers_eq (h : Quiet s t) : t.timers = s.timers :=
  congrArg Core.timers h.core

/-- Behind a quiet change the same happens when timers are up. -/
theorem callbacks_eq (h : Quiet s t) : t.callbacks = s.callbacks :=
  congrArg Core.callbacks h.core

/-- Behind a quiet change the same is visible. -/
theorem isVisible_eq (h : Quiet s t) (surface : Surface) :
    t.isVisible surface = s.isVisible surface :=
  congrFun (congrArg Core.visible h.core) surface

/-- Behind a quiet change the same pages were displayed. -/
theorem shown_eq (h : Quiet s t) : t.shown = s.shown :=
  congrArg Core.shown h.core

end Core

/-- A change of what nothing else depends on is quiet. -/
theorem of_core {s t : Session} (hcore : t.core = s.core) (hpages : t.pages = s.pages)
    (hwire : t.wire = s.wire) (hlogout : t.bindings .logout = s.bindings .logout) : Quiet s t :=
  ⟨hcore, ⟨[], by simp [hpages]⟩, hwire ▸ List.suffix_refl _, .inl hlogout⟩

/-- A quiet effect is a quiet change. -/
theorem emit {e : Effect} (he : e.IsQuiet) (s : Session) : Quiet s (s.emit e) :=
  of_core (core_emit he s) rfl rfl rfl

/-- Showing a region that is visible, or hiding one that is not, is a quiet change.

**Proof sketch.** The effect is one more in the trace. It says of its own region what was so before,
and nothing of the others, and it displays no page. -/
theorem visible {surface : Surface} {isVisible : Bool} {s : Session}
    (h : s.isVisible surface = some isVisible) : Quiet s (s.emit (.visible surface isVisible)) := by
  have htrace : (s.emit (.visible surface isVisible)).trace =
      s.trace ++ [.visible surface isVisible] := rfl
  have hvisible : ∀ target, (s.emit (.visible surface isVisible)).isVisible target =
      s.isVisible target := by
    intro target
    rw [isVisible_of_trace htrace]
    by_cases heq : surface = target
    · subst heq
      simp [Effect.visibility, h]
    · simp [Effect.visibility, heq]
  have hshown : (s.emit (.visible surface isVisible)).shown = s.shown := by
    rw [shown_of_trace htrace]
    simp [Effect.shown?]
  refine of_core ?_ rfl rfl rfl
  simp only [Session.core, hvisible, hshown]
  rfl

/-- Logging is a quiet change. -/
theorem log (event : Log.Event) (s : Session) : Quiet s (s.log event) :=
  emit (Effect.isQuiet_log event) s

/-- Making a page is a quiet change. -/
theorem addPage {body : PageBody} (hbody : body.IsNew) (s : Session) :
    Quiet s (s.addPage (.fresh body)).2 where
  core := rfl
  pages := ⟨[.fresh body], rfl, by simpa using ⟨body, hbody, rfl⟩⟩
  waiting := List.suffix_refl _
  logout := .inl rfl

/-- Another inventory or another horizon of a dashboard is a quiet change.

**Proof sketch.** The outline of a page has its timer, which the change keeps, and not its inventory
or its horizon. All other pages stay as they are. -/
theorem modifyDashboard (p : Nat) {f : Dashboard → Dashboard}
    (hf : ∀ d, (f d).timer = d.timer) (s : Session) : Quiet s (s.modifyDashboard p f) where
  core := rfl
  pages := by
    refine ⟨[], ?_, by simp⟩
    rw [List.append_nil]
    refine List.ext_getElem? fun q => ?_
    simp only [Session.modifyDashboard, modifyPage, List.getElem?_map, List.getElem?_modify]
    rcases s.pages[q]? with _ | ⟨body, hasContext, isActive⟩
    · rfl
    · by_cases hpq : p = q
      · cases body <;> simp [hpq, Page.outline, Page.mapDashboard, hf]
      · simp [hpq]
  waiting := List.suffix_refl _
  logout := .inl rfl

/-- Expiring the session token is a quiet change. -/
theorem clearToken (s : Session) : Quiet s s.clearToken :=
  of_core ((core_emit ⟨fun _ => rfl, rfl⟩ _).trans (core_log (.tokenCleared s.services.cookie) s))
    rfl rfl rfl

/-- Making logging out possible, or not, is a quiet change. -/
theorem wireLogout (auth : Api.AuthMethod) (s : Session) : Quiet s (s.wireLogout auth) := by
  cases auth with
  | anonymous => exact emit ⟨fun _ => rfl, rfl⟩ s
  | userpass =>
    have hpages : (s.wireLogout .userpass).pages = s.pages := rfl
    refine ⟨?_, ⟨[], by simp [hpages]⟩, List.suffix_refl _, .inr rfl⟩
    have havailable := core_emit (e := .logoutAvailable true) ⟨fun _ => rfl, rfl⟩ s
    exact (core_emit ⟨fun _ => rfl, rfl⟩ _).trans havailable

end Quiet

end Session

end CertDashboard
