import CertDashboard.Session.Task

set_option autoImplicit false
set_option relaxedAutoImplicit false

/-!
# Asides

Most of the small things that a session does are asides: gestures are bound and unbound, timers are
set and cancelled, pages are marked, regions are shown and hidden. Nothing is asked for then,
nothing is rendered or reported, and each page stays what it is.

## Main definitions

* `CertDashboard.Page.face` — what a page is, for a dashboard no more than that.
* `CertDashboard.Session.Effect.IsAside` — the effects of asides.
* `CertDashboard.Session.Backdrop` — what an aside leaves alone, as one record.
* `CertDashboard.Session.Aside` — an aside.

## Main results

* `CertDashboard.Session.Aside.trans` — asides one after another are one.
* `CertDashboard.Session.Aside.teardown` — a page that is torn down is an aside.

## Design

Other changes ask for less: that nothing is rendered without a cause, that no page is displayed,
that nothing is reported. An aside is one of each, and so what consists of asides is proved to be
one here and nowhere else.
-/

namespace CertDashboard

namespace Page

/-- **What a page is**, without what happened to it. -/
def face (page : Page) : Page :=
  match page.body with
  | .dashboard _ => .dashboard
  | .login message => .login message
  | .probe name kind hidesMenu => .fresh (.probe name kind hidesMenu)

/-- The kind of a page is what it is. -/
theorem kind_face (page : Page) : page.face.kind = page.kind := by
  obtain ⟨body, hasContext, isActive⟩ := page
  cases body <;> rfl

/-- A dashboard stays one. -/
theorem face_mapDashboard (f : Dashboard → Dashboard) (page : Page) :
    (page.mapDashboard f).face = page.face := by
  obtain ⟨body, hasContext, isActive⟩ := page
  cases body <;> rfl

end Page

/-- Whether an event tells neither of a request, nor of its failure, nor of a display. -/
def Log.Event.IsAside : Log.Event → Prop
  | .request _ _ | .requestFailed _ _ _ | .displayed _ _ => False
  | _ => True

namespace Session

/-- **The effects of asides**: nothing is rendered, asked for or reported. -/
def Effect.IsAside : Effect → Prop
  | .log event => event.IsAside
  | .render _ _ | .sent _ _ | .ready _ => False
  | _ => True

/-- **What an aside leaves alone.** -/
structure Backdrop where
  /-- What the pages are. -/
  faces : List Page
  /-- The current page. -/
  current : Option Nat
  /-- Whether pages can be displayed. -/
  isAlive : Bool
  /-- The pages that probes plan to display. -/
  plans : List (Nat × Nat)
  /-- The requests. -/
  wire : Api.Wire Purpose

/-- The part of a session that an aside leaves alone. -/
def backdrop (s : Session) : Backdrop where
  faces := s.pages.map Page.face
  current := s.current
  isAlive := s.isAlive
  plans := s.plans
  wire := s.wire

/-- **An aside**: nothing is rendered, asked for or reported, and each page stays what it is. -/
structure Aside (s t : Session) : Prop where
  /-- The backdrop is left alone. -/
  backdrop : t.backdrop = s.backdrop
  /-- The effects are those of asides. -/
  trace : ∃ es, t.trace = s.trace ++ es ∧ ∀ e ∈ es, e.IsAside

namespace Aside

variable {s t u : Session}

/-- A change without effects. -/
theorem of_trace (htrace : t.trace = s.trace) (hbackdrop : t.backdrop = s.backdrop) : Aside s t :=
  ⟨hbackdrop, [], by rw [htrace, List.append_nil], List.forall_mem_nil _⟩

/-- No change. -/
theorem refl (s : Session) : Aside s s :=
  of_trace rfl rfl

/-- **Asides one after another.** -/
theorem trans (h : Aside s t) (h' : Aside t u) : Aside s u := by
  obtain ⟨es, htrace, hes⟩ := h.trace
  obtain ⟨es', htrace', hes'⟩ := h'.trace
  refine ⟨h'.backdrop.trans h.backdrop, es ++ es', ?_, fun e he => ?_⟩
  · rw [htrace', htrace, List.append_assoc]
  · exact (List.mem_append.mp he).elim (hes e) (hes' e)

/-- One effect. -/
theorem emit {e : Effect} (he : e.IsAside) (s : Session) : Aside s (s.emit e) :=
  ⟨rfl, [e], rfl, List.forall_mem_singleton.mpr he⟩

/-- A gesture that is bound. -/
theorem bind (g : Gesture) (handler : Handler) (s : Session) : Aside s (s.bind g handler) :=
  (emit (e := .bind g handler) trivial s).trans (of_trace rfl rfl)

/-- A gesture that is unbound. -/
theorem unbind (g : Gesture) (s : Session) : Aside s (s.unbind g) :=
  (emit (e := .unbind g) trivial s).trans (of_trace rfl rfl)

/-- A page that is changed and stays what it is. -/
theorem modifyPage (p : Nat) {f : Page → Page} (hf : ∀ page, (f page).face = page.face)
    (s : Session) : Aside s (s.modifyPage p f) := by
  have hfaces : (s.pages.modify p f).map Page.face = s.pages.map Page.face := by
    refine List.ext_getElem? fun q => ?_
    simp only [List.getElem?_map, List.getElem?_modify]
    rcases s.pages[q]? with _ | page
    · rfl
    · by_cases hpq : p = q <;> simp [hpq, hf]
  refine of_trace rfl ?_
  rw [Session.backdrop, Session.backdrop, Session.modifyPage, hfaces]

/-- A dashboard that is changed. -/
theorem modifyDashboard (p : Nat) (f : Dashboard → Dashboard) (s : Session) :
    Aside s (s.modifyDashboard p f) :=
  modifyPage p (Page.face_mapDashboard f) s

/-- A timer that is cancelled. -/
theorem cancelTimer (p : Nat) (s : Session) : Aside s (s.cancelTimer p) := by
  unfold Session.cancelTimer
  split
  · exact refl s
  · next number _ =>
    have htimers : Aside s { s with timers := s.timers.filter fun t => t.number != number } :=
      of_trace rfl rfl
    exact (htimers.trans (modifyDashboard p _ _)).trans (emit (e := .cancelled number) trivial _)

/-- A timer that is set. -/
theorem schedule (p : Nat) (s : Session) : Aside s (s.schedule p) := by
  have hset : ∀ (u : Session) (timers : List Timer) (callbacks : List Callback),
      Aside u { u with timers := timers, callbacks := callbacks } :=
    fun _ _ _ => of_trace rfl rfl
  exact ((cancelTimer p s).trans (hset _ _ _)).trans (modifyDashboard p _ _)

/-- A context that is given. -/
theorem giveContext (p : Nat) (s : Session) : Aside s (s.giveContext p) := by
  have hgiven := modifyPage p (f := fun page => { page with hasContext := true }) (fun _ => rfl) s
  unfold Session.giveContext
  dsimp only
  split
  · exact hgiven.trans (emit (e := .journal _ _) trivial _)
  · exact hgiven

/-- **A page that is torn down.** -/
theorem teardown (p : Nat) (s : Session) : Aside s (s.teardown p) := by
  have hretired := modifyPage p (f := fun page => { page with isActive := false }) (fun _ => rfl) s
  unfold Session.teardown
  split
  · exact refl s
  · dsimp only
    split
    · exact (hretired.trans (emit (e := .visible _ _) trivial _)).trans (unbind _ _)
    · exact ((hretired.trans (cancelTimer p _)).trans (unbind _ _)).trans
        (emit (e := .visible _ _) trivial _)
    · exact hretired
    · exact hretired
    · exact hretired.trans (emit (e := .journal _ _) trivial _)

/-- The session token that is removed. -/
theorem clearToken (s : Session) : Aside s s.clearToken :=
  (emit (e := .log (.tokenCleared s.services.cookie)) trivial s).trans
    ((emit (e := .cookie (Cookie.expiry s.services.cookie)) trivial _).trans (of_trace rfl rfl))

/-- Logging out that is made possible, or not. -/
theorem wireLogout (auth : Api.AuthMethod) (s : Session) : Aside s (s.wireLogout auth) := by
  cases auth with
  | anonymous => exact emit (e := .logoutAvailable false) trivial s
  | userpass => exact (emit (e := .logoutAvailable true) trivial s).trans (bind _ _ _)

end Aside

end Session

end CertDashboard
