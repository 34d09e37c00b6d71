import CertDashboard.Proofs.Session.Show

set_option autoImplicit false
set_option relaxedAutoImplicit false

/-!
# Pages one after another

What there is to see when pages are displayed one after another, whatever pages they are: each one
leaves before the next one is given a context, and the menu is shown or hidden between the context
and the initialization.

## Main definitions

* `CertDashboard.Session.stageEffects` — what a page does at a stage of its life.
* `CertDashboard.Session.course` — what there is to see of pages that are displayed in turn.
* `CertDashboard.Session.Plays` — a change that has some effects and leaves every page what it is.
* `CertDashboard.Session.Poised` — a session that shows a page, or none yet, and has no timer.
* `CertDashboard.Session.inTurn` — pages are displayed in turn.

## Main results

* `CertDashboard.Session.Poised.display` — one page is displayed.
* `CertDashboard.Session.Poised.inTurn` — pages are displayed in turn, and their course is seen.

## Design

A page is known by its role: what it is, but for the inventory and the horizon of a dashboard. Roles
stay whatever is displayed, and so nothing is asked about the pages that a session has besides.

The requests that dashboards send have to wait here. A reply in store could make them display
further pages, which are not among those of the course.
-/

namespace CertDashboard

/-- Whether a page asks the backend as soon as it is initialized. -/
def PageBody.Asks : PageBody → Prop
  | .dashboard _ => True
  | .login _ | .probe _ _ _ => False

namespace Session

/-! ## The course -/

/-- **What a page does at a stage of its life.** A probe records the stage; a login form or a
dashboard binds its gesture and shows its region, and undoes both. -/
def stageEffects (services : Services) (p : Nat) (body : PageBody) (stage : Stage) : List Effect :=
  match body, stage with
  | .probe name _ _, stage => [.journal name stage]
  | .login _, .context | .dashboard _, .context => []
  | .login message, .activation => [.render .loginPanel (.login message),
      .bind .loginSubmit (.submit p), .visible .loginPanel true]
  | .login _, .teardown => [.visible .loginPanel false, .unbind .loginSubmit]
  | .dashboard _, .activation => [.bind .toggleHorizon (.toggle p), .visible .certificatePanel true,
      .log (services.client.request .inventory).sentEvent,
      .sent (services.client.request .inventory) true]
  | .dashboard _, .teardown => [.unbind .toggleHorizon, .visible .certificatePanel false]

/-- What there is to see as one page gives way to the next one. -/
def arrival (services : Services) (previous : Option (Nat × PageBody)) (next : Nat × PageBody) :
    List Effect :=
  [.log (.displayed (previous.map fun v => (Page.fresh v.2).kind) (Page.fresh next.2).kind)] ++
    (previous.toList.flatMap fun v => stageEffects services v.1 v.2 .teardown) ++
    stageEffects services next.1 next.2 .context ++
    [.visible .hamburgerMenu (!(Page.fresh next.2).hidesMenu)] ++
    stageEffects services next.1 next.2 .activation

/-- **What there is to see of pages that are displayed in turn**, the first one in the place of the
previous page, if there is one. -/
def course (services : Services) : Option (Nat × PageBody) → List (Nat × PageBody) → List Effect
  | _, [] => []
  | previous, next :: rest => arrival services previous next ++ course services (some next) rest

/-- **The lives of pages that are displayed in turn**: what is called on them, in order. Each page
is given a context and initialized, and torn down before the next one is given a context. -/
def lives : Option PageBody → List PageBody → List (PageBody × Stage)
  | _, [] => []
  | previous, next :: rest => (previous.map fun body => (body, .teardown)).toList ++
      [(next, .context), (next, .activation)] ++ lives (some next) rest

/-- What a probe records of a call. -/
def recorded? : PageBody × Stage → Option (String × Stage)
  | (.probe name _ _, stage) => some (name, stage)
  | (.login _, _) | (.dashboard _, _) => none

/-- What an effect says about the life of a probe, if it says anything. -/
def Effect.recorded? : Effect → Option (String × Stage)
  | .journal name stage => some (name, stage)
  | _ => none

/-- **What is recorded of pages that are displayed in turn** are their lives.

**Proof sketch.** Induction on the visits, for every page before them. Of one arrival only its
stages are recorded, the teardown of the page before and the context and activation of this one; log
lines and the menu are not. -/
theorem recorded_course (services : Services) (previous : Option (Nat × PageBody))
    (visits : List (Nat × PageBody)) :
    (course services previous visits).filterMap Effect.recorded? =
      (lives (previous.map Prod.snd) (visits.map Prod.snd)).filterMap recorded? := by
  have hstage : ∀ p body stage, (stageEffects services p body stage).filterMap Effect.recorded? =
      [(body, stage)].filterMap recorded? := by
    intro p body stage
    cases body <;> cases stage <;> rfl
  have hlog : ∀ event, [Effect.log event].filterMap Effect.recorded? = [] := fun _ => rfl
  have hmenu : ∀ surface isVisible,
      [Effect.visible surface isVisible].filterMap Effect.recorded? = [] := fun _ _ => rfl
  have hpair : ∀ c c' : PageBody × Stage, [c, c'] = [c] ++ [c'] := fun _ _ => rfl
  induction visits generalizing previous with
  | nil => rfl
  | cons next rest ih =>
    rw [course, List.map_cons, lives, List.filterMap_append, List.filterMap_append, ih, arrival,
      hpair]
    simp only [List.filterMap_append, hlog, hmenu, hstage, List.append_assoc, List.nil_append,
      Option.map_some]
    rcases previous with _ | ⟨p, body⟩
    · rfl
    · rw [Option.toList_some, List.flatMap_singleton, hstage]
      rfl

/-- **The menu is shown or hidden once for each page**, as the page has it.

**Proof sketch.** Induction on the visits, for every page before them. Of one arrival only the call
between context and activation is for the menu, since no stage of a page has one. -/
theorem menu_course (services : Services) (previous : Option (Nat × PageBody))
    (visits : List (Nat × PageBody)) :
    (course services previous visits).filterMap (Effect.visibility .hamburgerMenu) =
      visits.map fun v => !(Page.fresh v.2).hidesMenu := by
  have hstage : ∀ p body stage,
      (stageEffects services p body stage).filterMap (Effect.visibility .hamburgerMenu) = [] := by
    intro p body stage
    cases body <;> cases stage <;> rfl
  induction visits generalizing previous with
  | nil => rfl
  | cons next rest ih =>
    rw [course, List.map_cons, List.filterMap_append, ih, arrival]
    simp only [List.filterMap_append, hstage, List.append_nil]
    rcases previous with _ | ⟨p, body⟩
    · rfl
    · rw [Option.toList_some, List.flatMap_singleton, hstage]
      rfl

/-! ## Roles -/

/-- **What a page is**, but for the inventory and the horizon of a dashboard. -/
def roleOf (p : Nat) (s : Session) : Option PageBody :=
  (s.pages[p]?).map fun page => page.outline.body

/-- Whether a page was given a context. -/
def HasContext (p : Nat) (s : Session) : Prop :=
  ∃ page, s.pages[p]? = some page ∧ page.hasContext = true

/-- A page with a role and a context, by its fields. -/
theorem exists_page_of_role {s : Session} {p : Nat} {role : PageBody}
    (hrole : s.roleOf p = some role) (hcontext : s.HasContext p) :
    ∃ body isActive, s.pages[p]? = some ⟨body, true, isActive⟩ ∧
      (Page.mk body true isActive).outline.body = role := by
  obtain ⟨⟨body, hasContext, isActive⟩, hpage, hgiven⟩ := hcontext
  obtain rfl : hasContext = true := hgiven
  refine ⟨body, isActive, hpage, ?_⟩
  rw [roleOf, hpage] at hrole
  exact Option.some.inj hrole

/-- The timer of a page is a matter of its role. -/
theorem timerOf_eq (p : Nat) (s : Session) :
    s.timerOf p = (s.roleOf p).bind fun body => (Page.fresh body).timer? := by
  unfold timerOf roleOf
  rcases s.pages[p]? with _ | ⟨body, hasContext, isActive⟩
  · rfl
  · cases body <;> rfl

/-- A page without a timer has none to cancel. -/
theorem cancelTimer_of_timerOf {p : Nat} {s : Session} (h : s.timerOf p = none) :
    s.cancelTimer p = s := by
  have htimer : (s.pages[p]?.bind Page.dashboard?).bind Dashboard.timer = none := by
    rw [← h]
    exact Option.bind_assoc _ _ _
  unfold cancelTimer
  rw [htimer]

/-! ## Changes that leave every page what it is -/

/-- **A change that has some effects and leaves every page what it is.** -/
structure Plays (es : List Effect) (s t : Session) : Prop where
  /-- The effects. -/
  trace : t.trace = s.trace ++ es
  /-- What pages are built from. -/
  services : t.services = s.services
  /-- Whether pages can be displayed. -/
  isAlive : t.isAlive = s.isAlive
  /-- Replies that are there before their request. -/
  script : t.script = s.script
  /-- The pages that are kept. -/
  held : t.held = s.held
  /-- The pages that probes plan to display. -/
  plans : t.plans = s.plans
  /-- The current page. -/
  current : t.current = s.current
  /-- Pages keep their roles. -/
  role : ∀ p, t.roleOf p = s.roleOf p
  /-- Pages keep the context that they were given. -/
  context : ∀ p, s.HasContext p → t.HasContext p

namespace Plays

variable {es es' : List Effect} {s t u : Session}

/-- Nothing changes. -/
theorem refl (s : Session) : Plays [] s s :=
  ⟨(List.append_nil _).symm, rfl, rfl, rfl, rfl, rfl, rfl, fun _ => rfl, fun _ h => h⟩

/-- Two changes are one. -/
theorem trans (h : Plays es s t) (h' : Plays es' t u) : Plays (es ++ es') s u where
  trace := by rw [h'.trace, h.trace, List.append_assoc]
  services := h'.services.trans h.services
  isAlive := h'.isAlive.trans h.isAlive
  script := h'.script.trans h.script
  held := h'.held.trans h.held
  plans := h'.plans.trans h.plans
  current := h'.current.trans h.current
  role p := (h'.role p).trans (h.role p)
  context p hp := h'.context p (h.context p hp)

/-- Whichever page is current, the change is the same. -/
theorem withCurrent (h : Plays es s t) (current : Option Nat) :
    Plays es { s with current := current } { t with current := current } :=
  ⟨h.trace, h.services, h.isAlive, h.script, h.held, h.plans, rfl, h.role, h.context⟩

/-- Timers stay as well. -/
theorem timerOf_eq (h : Plays es s t) (p : Nat) : t.timerOf p = s.timerOf p := by
  rw [Session.timerOf_eq, Session.timerOf_eq, h.role]

/-- Pages are kept at the places where they were. -/
theorem heldAt_eq (h : Plays es s t) (place : Nat) : t.heldAt place = s.heldAt place := by
  unfold heldAt
  rw [h.held]

/-- One more effect. -/
theorem emit (e : Effect) (s : Session) : Plays [e] s (s.emit e) :=
  ⟨rfl, rfl, rfl, rfl, rfl, rfl, rfl, fun _ => rfl, fun _ h => h⟩

/-- A gesture is bound. -/
theorem bind (g : Gesture) (handler : Handler) (s : Session) :
    Plays [.bind g handler] s (s.bind g handler) :=
  ⟨rfl, rfl, rfl, rfl, rfl, rfl, rfl, fun _ => rfl, fun _ h => h⟩

/-- A gesture is unbound. -/
theorem unbind (g : Gesture) (s : Session) : Plays [.unbind g] s (s.unbind g) :=
  ⟨rfl, rfl, rfl, rfl, rfl, rfl, rfl, fun _ => rfl, fun _ h => h⟩

/-- A page is changed in something that is not its role.

**Proof sketch.** All fields but two speak of other parts of the session. The role of a page is its
body in outline, which the change keeps, and a context stays where it was. -/
theorem modifyPage (p : Nat) {f : Page → Page}
    (hf : ∀ page, (f page).outline.body = page.outline.body)
    (hcontext : ∀ page, page.hasContext = true → (f page).hasContext = true) (s : Session) :
    Plays [] s (s.modifyPage p f) where
  trace := (List.append_nil _).symm
  services := rfl
  isAlive := rfl
  script := rfl
  held := rfl
  plans := rfl
  current := rfl
  role q := by
    unfold roleOf Session.modifyPage
    rw [List.getElem?_modify]
    rcases s.pages[q]? with _ | page
    · rfl
    · by_cases hpq : p = q <;> simp [hpq, hf]
  context q := by
    rintro ⟨page, hpage, hq⟩
    unfold HasContext Session.modifyPage
    rw [List.getElem?_modify, hpage]
    by_cases hpq : p = q
    · exact ⟨f page, by simp [hpq], hcontext page hq⟩
    · exact ⟨page, by simp [hpq], hq⟩

/-- A page becomes active, or is no longer. -/
theorem activity (p : Nat) (isActive : Bool) (s : Session) :
    Plays [] s (s.modifyPage p fun page => { page with isActive := isActive }) := by
  refine modifyPage p ?_ ?_ s
  · rintro ⟨body, hasContext, old⟩
    cases body <;> rfl
  · exact fun page h => h

/-- A dashboard is changed, but for its timer. -/
theorem modifyDashboard (p : Nat) {f : Dashboard → Dashboard} (hf : ∀ d, (f d).timer = d.timer)
    (s : Session) : Plays [] s (s.modifyDashboard p f) := by
  refine modifyPage p ?_ ?_ s
  · rintro ⟨body, hasContext, isActive⟩
    cases body with
    | login message => rfl
    | dashboard d => simp [Page.outline, Page.mapDashboard, hf]
    | probe name kind hidesMenu => rfl
  · rintro ⟨body, hasContext, isActive⟩ h
    cases body <;> exact h

/-- A request is sent that has to wait. -/
theorem send (purpose : Purpose) (call : Api.Call) (h : s.script = []) :
    Plays [.log (s.services.client.request call).sentEvent,
      .sent (s.services.client.request call) true] s (s.send purpose call).1 := by
  have heq : (s.send purpose call).1 =
      { s.log (s.services.client.request call).sentEvent with
        wire := s.wire.park (s.services.client.request call) purpose }.emit
          (.sent (s.services.client.request call) true) := by
    simp [Session.send, Session.log, Session.emit, h]
  rw [heq]
  exact (emit (.log (s.services.client.request call).sentEvent) s).trans
    ⟨rfl, rfl, rfl, rfl, rfl, rfl, rfl, fun _ => rfl, fun _ h => h⟩

/-! ### The life of a page -/

/-- A page is given a context.

**Proof sketch.** The change of the page keeps its role and leaves a context. By the kinds of pages,
only a probe has an effect of this stage, which is its journal entry. -/
theorem giveContext {p : Nat} {body : PageBody} (hrole : s.roleOf p = some body) :
    Plays (stageEffects s.services p body .context) s (s.giveContext p) ∧
      (s.giveContext p).HasContext p := by
  obtain ⟨page, hpage, rfl⟩ := Option.map_eq_some_iff.mp hrole
  have hgiven : Plays [] s (s.modifyPage p fun page => { page with hasContext := true }) := by
    refine modifyPage p ?_ (fun _ _ => rfl) s
    rintro ⟨body, hasContext, isActive⟩
    cases body <;> rfl
  have hcontext : (s.modifyPage p fun page => { page with hasContext := true }).HasContext p :=
    ⟨{ page with hasContext := true }, by simp [Session.modifyPage, hpage], rfl⟩
  have hbody : ((s.modifyPage p fun page => { page with hasContext := true }).pages[p]?).map
      Page.body = some page.body := by
    simp [Session.modifyPage, hpage]
  unfold Session.giveContext
  dsimp only
  rw [hbody]
  obtain ⟨body, hasContext, isActive⟩ := page
  cases body with
  | login message => exact ⟨hgiven, hcontext⟩
  | dashboard d => exact ⟨hgiven, hcontext⟩
  | probe name kind hidesMenu => exact ⟨hgiven.trans (emit _ _), hcontext⟩

/-- A page is torn down.

**Proof sketch.** By the kinds of pages. Each is marked as not active. A form is cleared, a
dashboard hides its region behind a timer that is not due, and a probe writes its journal; these are
the effects of the stage. -/
theorem teardown {p : Nat} {body : PageBody} (hrole : s.roleOf p = some body)
    (hcontext : s.HasContext p) (htimer : s.timerOf p = none) :
    Plays (stageEffects s.services p body .teardown) s (s.teardown p) := by
  obtain ⟨body, isActive, hpage, rfl⟩ := exists_page_of_role hrole hcontext
  have hretired := activity p false s
  unfold Session.teardown
  rw [hpage]
  cases body with
  | login message => exact (hretired.trans (emit _ _)).trans (unbind _ _)
  | dashboard d =>
    simp only [cancelTimer_of_timerOf ((hretired.timerOf_eq p).trans htimer)]
    exact (hretired.trans (unbind _ _)).trans (emit _ _)
  | probe name kind hidesMenu => exact hretired.trans (emit _ _)

end Plays

/-! ## Initialization -/

/-- What an initialized page has to do next: a dashboard asks for the inventory, and a probe
displays the pages that it plans to. -/
def followUp (p : Nat) : PageBody → List Task
  | .login _ => []
  | .dashboard _ => [.send (.refresh p) .inventory]
  | .probe _ _ _ => [.follow p true]

/-- The tasks that initializing a page leaves. -/
theorem activate_tasks {s : Session} {p : Nat} {body : PageBody} (hrole : s.roleOf p = some body)
    (hcontext : s.HasContext p) : (s.activate p).2 = followUp p body := by
  obtain ⟨body, isActive, hpage, rfl⟩ := exists_page_of_role hrole hcontext
  unfold activate
  rw [hpage]
  cases body <;> rfl

/-- A request that has to wait, with all that it leads to. -/
theorem run_send {s : Session} (purpose : Purpose) (call : Api.Call) (h : s.script = []) :
    s.run [.send purpose call] = (s.send purpose call).1 := by
  have htasks : (s.send purpose call).2 = [] := by simp [send, log, emit, h]
  rw [run_cons, perform, htasks, List.append_nil, run_nil]

/-- The pages that a probe plans to display are displayed, and planned no longer. -/
theorem run_follow (p : Nat) (s : Session) :
    s.run [.follow p true] = (s.dropPlans p).run ((s.plansOf p).map .display) := by
  rw [run_cons, perform, if_pos rfl, List.append_nil]

/-- **A page is initialized**, with all that it leads to if nothing is planned.

**Proof sketch.** By the kinds of pages. A form is rendered and bound and leaves nothing to do. A
dashboard is bound and asks for the inventory, and without a script the request waits. What a probe
leads to is empty, since nothing is planned. -/
theorem Plays.activate {s : Session} {p : Nat} {body : PageBody} (hrole : s.roleOf p = some body)
    (hcontext : s.HasContext p) (hplans : s.plans = []) (hscript : body.Asks → s.script = []) :
    Plays (stageEffects s.services p body .activation) s
      ((s.activate p).1.run (followUp p body)) := by
  obtain ⟨body, isActive, hpage, rfl⟩ := exists_page_of_role hrole hcontext
  have hactive := activity p true s
  unfold Session.activate
  rw [hpage]
  cases body with
  | login message =>
    rw [Page.outline, Page.mapDashboard, followUp, run_nil]
    exact ((hactive.trans (emit _ _)).trans (bind _ _ _)).trans (emit _ _)
  | dashboard d =>
    have hhorizon := hactive.trans (modifyDashboard p
      (f := fun d => { d with horizon := some s.services.tuning.horizon }) (fun _ => rfl) _)
    have hshown : Plays [.bind .toggleHorizon (.toggle p), .visible .certificatePanel true] s
        (s.activateDashboard p) := (hhorizon.trans (bind _ _ _)).trans (emit _ _)
    have hwaits : (s.activateDashboard p).script = [] := hshown.script.trans (hscript trivial)
    rw [Page.outline, Page.mapDashboard, followUp, run_send _ _ hwaits]
    have hsent := hshown.trans (send (.refresh p) .inventory hwaits)
    rw [hshown.services] at hsent
    exact hsent
  | probe name kind hidesMenu =>
    have hplansOf : (s.emit (.journal name .activation)).plansOf p = [] := by
      simp [plansOf, Session.emit, hplans]
    have hdrop : (s.emit (.journal name .activation)).dropPlans p =
        s.emit (.journal name .activation) := by
      have hsame : (s.emit (.journal name .activation)).plans = [] := hplans
      rw [dropPlans, hsame, List.filter_nil, ← hsame]
    rw [Page.outline, Page.mapDashboard, followUp, run_follow, hplansOf, hdrop, List.map_nil, run_nil]
    exact emit _ _

/-! ## One page -/

/-- The session in which a page is displayed and has to be initialized. -/
def greeted (p : Nat) (body : PageBody) (s : Session) : Session :=
  ({ (s.log (.displayed s.currentKind (Page.fresh body).kind)).leave with
    current := some p }.giveContext p).emit (.visible .hamburgerMenu (!(Page.fresh body).hidesMenu))

/-- Displaying a page, as its initialization and what follows on it. -/
theorem run_display_eq {s : Session} {p : Nat} {body : PageBody} (halive : s.isAlive = true)
    (hrole : s.roleOf p = some body) :
    s.run [.display p] =
      ((s.greeted p body).activate p).1.run ((s.greeted p body).activate p).2 := by
  obtain ⟨page, hpage, rfl⟩ := Option.map_eq_some_iff.mp hrole
  have hkind : (Page.fresh page.outline.body).kind = page.kind := by
    obtain ⟨body, hasContext, isActive⟩ := page
    cases body <;> rfl
  have hmenu : (Page.fresh page.outline.body).hidesMenu = page.hidesMenu := by
    obtain ⟨body, hasContext, isActive⟩ := page
    cases body <;> rfl
  rw [run_cons, perform, hpage]
  simp only [halive, if_true, List.append_nil, greeted, hkind, hmenu]
  rfl

/-- **A session that shows a page, or none yet, and has no timer.** -/
structure Poised (previous : Option (Nat × PageBody)) (s : Session) : Prop where
  /-- Pages can be displayed. -/
  isAlive : s.isAlive = true
  /-- No page has a timer. -/
  timer : ∀ p, s.timerOf p = none
  /-- The page is current. -/
  current : s.current = previous.map Prod.fst
  /-- It is what it is said to be, and was given a context. -/
  role : ∀ v ∈ previous, s.roleOf v.1 = some v.2 ∧ s.HasContext v.1

namespace Poised

variable {previous : Option (Nat × PageBody)} {s : Session}

/-- The page leaves. -/
theorem leave (h : s.Poised previous) :
    Plays (previous.toList.flatMap fun v => stageEffects s.services v.1 v.2 .teardown)
      { s with current := none } s.leave := by
  unfold Session.leave
  rcases previous with _ | ⟨p, body⟩
  · have hcurrent : s.current = none := h.current
    have hsame : { s with current := none } = s := by rw [← hcurrent]
    rw [hcurrent, hsame]
    exact .refl s
  · have hcurrent : s.current = some p := h.current
    obtain ⟨hrole, hcontext⟩ := h.role _ rfl
    rw [hcurrent]
    simpa using Plays.teardown (s := { s with current := none }) hrole hcontext (h.timer p)

/-- Effects change nothing about it. -/
theorem emit (h : s.Poised previous) (e : Effect) : (s.emit e).Poised previous :=
  ⟨h.isAlive, h.timer, h.current, h.role⟩

/-- The kind of the current page. -/
theorem currentKind (h : s.Poised previous) :
    s.currentKind = previous.map fun v => (Page.fresh v.2).kind := by
  unfold Session.currentKind
  rw [h.current]
  rcases previous with _ | ⟨p, body⟩
  · rfl
  · obtain ⟨page, hpage, hrole⟩ := Option.map_eq_some_iff.mp (h.role _ rfl).1
    obtain rfl : page.outline.body = body := hrole
    obtain ⟨body, hasContext, isActive⟩ := page
    have hpage : s.pages[p]? = some ⟨body, hasContext, isActive⟩ := hpage
    simp only [Option.map_some, Option.bind_some, hpage]
    cases body <;> rfl

/-- The page gives way to another one.

**Proof sketch.** In order: the log line, the teardown of the page before (`leave`), the context of
the new one (`Plays.giveContext`) and the menu. Each of them keeps roles, so the hypotheses go over
from one to the next. -/
theorem greeted (h : s.Poised previous) {p : Nat} {body : PageBody}
    (hrole : s.roleOf p = some body) :
    Plays ([.log (.displayed (previous.map fun v => (Page.fresh v.2).kind)
        (Page.fresh body).kind)] ++
      (previous.toList.flatMap fun v => stageEffects s.services v.1 v.2 .teardown) ++
      stageEffects s.services p body .context ++
      [.visible .hamburgerMenu (!(Page.fresh body).hidesMenu)])
      { s with current := some p } (s.greeted p body) ∧ (s.greeted p body).HasContext p := by
  let e : Log.Event := .displayed s.currentKind (Page.fresh body).kind
  have hleft : Plays (_ ++ _) _ { (s.log e).leave with current := some p } :=
    ((Plays.emit (.log e) s).withCurrent (some p)).trans ((h.emit (.log e)).leave.withCurrent (some p))
  have hrole' : { (s.log e).leave with current := some p }.roleOf p = some body :=
    (hleft.role p).trans hrole
  obtain ⟨hgiven, hcontext⟩ := Plays.giveContext hrole'
  rw [hleft.services] at hgiven
  rw [← h.currentKind]
  exact ⟨(hleft.trans hgiven).trans (.emit _ _), hcontext⟩

/-- **One page is displayed**, and nothing is planned.

**Proof sketch.** The page is greeted (`greeted`) and then activated with all that this leads to
(`Plays.activate`), which together is its arrival. Afterwards it is current, has its context and no
timer, which is what the next arrival starts from. -/
theorem display (h : s.Poised previous) (hplans : s.plans = []) {p : Nat} {body : PageBody}
    (hrole : s.roleOf p = some body) (hscript : body.Asks → s.script = []) :
    Plays (arrival s.services previous (p, body)) { s with current := some p }
        (s.run [.display p]) ∧
      (s.run [.display p]).Poised (some (p, body)) := by
  obtain ⟨hgreeted, hcontext⟩ := h.greeted hrole
  have hrole' : (s.greeted p body).roleOf p = some body := (hgreeted.role p).trans hrole
  have hactive := Plays.activate hrole' hcontext (hgreeted.plans.trans hplans)
    fun hasks => hgreeted.script.trans (hscript hasks)
  rw [hgreeted.services] at hactive
  have hplays := hgreeted.trans hactive
  rw [run_display_eq h.isAlive hrole, activate_tasks hrole' hcontext]
  refine ⟨hplays, hplays.isAlive.trans h.isAlive, fun q => (hplays.timerOf_eq q).trans (h.timer q),
    hplays.current, ?_⟩
  rintro v hv
  obtain rfl : (p, body) = v := Option.some.inj hv
  exact ⟨(hplays.role p).trans hrole, hactive.context p hcontext⟩

end Poised

/-! ## Pages in turn -/

/-- **Pages are displayed in turn.** -/
def inTurn (pages : List Nat) (s : Session) : Session :=
  pages.foldl (fun s p => s.run [.display p]) s

/-- Pages in turn, and others after them. -/
theorem inTurn_append (pages others : List Nat) (s : Session) :
    s.inTurn (pages ++ others) = (s.inTurn pages).inTurn others :=
  List.foldl_append

/-- **Pages that are displayed in turn follow their course.**

**Proof sketch.** Induction on the visits, for every page before them. The first page is displayed
(`Poised.display`), and the session behind that is poised for the rest; services and roles are the
same. -/
theorem Poised.inTurn {previous : Option (Nat × PageBody)} {s : Session} (h : s.Poised previous)
    (hplans : s.plans = []) (visits : List (Nat × PageBody))
    (hrole : ∀ v ∈ visits, s.roleOf v.1 = some v.2)
    (hscript : ∀ v ∈ visits, v.2.Asks → s.script = []) :
    Plays (course s.services previous visits)
        { s with current := (visits.getLast?.or previous).map Prod.fst }
        (s.inTurn (visits.map Prod.fst)) ∧
      (s.inTurn (visits.map Prod.fst)).Poised (visits.getLast?.or previous) := by
  induction visits generalizing previous s with
  | nil =>
    have hsame : { s with current := previous.map Prod.fst } = s := by rw [← h.current]
    simp only [List.getLast?_nil, Option.none_or, hsame]
    exact ⟨.refl s, h⟩
  | cons next rest ih =>
    obtain ⟨p, body⟩ := next
    obtain ⟨hplays, hposed⟩ := h.display hplans (hrole _ List.mem_cons_self)
      (hscript _ List.mem_cons_self)
    obtain ⟨hrest, hlast⟩ := ih hposed (hplays.plans.trans hplans)
      (fun v hv => (hplays.role v.1).trans (hrole v (List.mem_cons_of_mem _ hv)))
      (fun v hv hasks => hplays.script.trans (hscript v (List.mem_cons_of_mem _ hv) hasks))
    have hor : ((p, body) :: rest).getLast?.or previous = rest.getLast?.or (some (p, body)) := by
      rw [List.getLast?_cons]
      cases rest.getLast? <;> rfl
    have hcourse : course (s.run [.display p]).services (some (p, body)) rest =
        course s.services (some (p, body)) rest := by rw [hplays.services]
    rw [hcourse] at hrest
    rw [hor]
    exact ⟨(hplays.withCurrent _).trans hrest, hlast⟩

/-- Pages that are kept, each at the place of its number, are displayed in turn by one action each.

**Proof sketch.** Induction on the visits. One action displays the page that is kept in its place
(`apply_display_eq`), and behind it the other places, roles and plans are as they were
(`Poised.display`). -/
theorem Poised.foldl_display {previous : Option (Nat × PageBody)} {s : Session}
    (h : s.Poised previous) (hplans : s.plans = []) {visits : List (Nat × PageBody)}
    (hrole : ∀ v ∈ visits, s.roleOf v.1 = some v.2)
    (hscript : ∀ v ∈ visits, v.2.Asks → s.script = [])
    (hheld : ∀ v ∈ visits, s.heldAt v.1 = some v.1) :
    (visits.map fun v => Action.display v.1).foldl (fun s a => s.apply a) s =
      s.inTurn (visits.map Prod.fst) := by
  induction visits generalizing previous s with
  | nil => rfl
  | cons next rest ih =>
    obtain ⟨hplays, hposed⟩ := h.display hplans (hrole _ List.mem_cons_self)
      (hscript _ List.mem_cons_self)
    rw [List.map_cons, List.foldl_cons, apply_display_eq (hheld _ List.mem_cons_self)]
    refine ih hposed (hplays.plans.trans hplans)
      (fun v hv => (hplays.role v.1).trans (hrole v (List.mem_cons_of_mem _ hv)))
      (fun v hv hasks => hplays.script.trans (hscript v (List.mem_cons_of_mem _ hv) hasks))
      fun v hv => (hplays.heldAt_eq v.1).trans (hheld v (List.mem_cons_of_mem _ hv))

end Session

end CertDashboard
