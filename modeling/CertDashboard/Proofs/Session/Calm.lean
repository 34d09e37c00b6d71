import CertDashboard.Proofs.Session.Dashboards

set_option autoImplicit false
set_option relaxedAutoImplicit false

/-!
# What a change adds, and calm changes

A session is read by its trace: which certificates were rendered, which requests were sent, and
which pages were displayed. A change adds to each of them, and a calm one adds nothing to any; nor
does it change a dashboard.

## Main definitions

* `CertDashboard.Session.Adds` — what a change adds to the views of certificates, to the requests
  and to the pages that were displayed.
* `CertDashboard.Session.Calm` — a change that adds nothing, and leaves the pages as they are but
  for new ones.

## Main results

* `CertDashboard.Session.Adds.trans` — changes one after another add what each of them adds.
* `CertDashboard.Session.Adds.showing`, `CertDashboard.Session.Adds.toggle`,
  `CertDashboard.Session.Adds.refreshed` — what a page adds that is displayed, and a dashboard whose
  picture changes.
* `CertDashboard.Session.Calm.trans` — calm changes one after another are one.

## Design

A calm change is a quiet one, and more: a quiet change may render an inventory, and may send a
request that does not wait.
-/

namespace CertDashboard

namespace Session

/-! ## Effects -/

/-- The request that an effect sends, if it sends one. -/
def Effect.request? : Effect → Option Api.Request
  | .sent request _ => some request
  | _ => none

/-- The view that an effect renders among the certificates, if it renders one there. -/
def Effect.view? : Effect → Option View
  | .render .certificatePanel view => some view
  | _ => none

/-! ## What a change adds -/

/-- **What a change adds**: views of certificates, requests, and pages that are displayed. -/
def Adds (views : List View) (requests : List Api.Request) (pages : List Nat) (s t : Session) :
    Prop :=
  ∃ es, t.trace = s.trace ++ es ∧ es.filterMap Effect.view? = views ∧
    es.filterMap Effect.request? = requests ∧ es.filterMap Effect.shown? = pages

namespace Adds

variable {s t u : Session} {views views' : List View} {requests requests' : List Api.Request}
  {pages pages' : List Nat}

/-- No effect, nothing added. -/
theorem of_trace (h : t.trace = s.trace) : Adds [] [] [] s t :=
  ⟨[], by simp [h], rfl, rfl, rfl⟩

/-- Changes one after another add what each of them adds. -/
theorem trans (h : Adds views requests pages s t) (h' : Adds views' requests' pages' t u) :
    Adds (views ++ views') (requests ++ requests') (pages ++ pages') s u := by
  obtain ⟨es, htrace, rfl, rfl, rfl⟩ := h
  obtain ⟨es', htrace', rfl, rfl, rfl⟩ := h'
  refine ⟨es ++ es', ?_, ?_, ?_, ?_⟩
  · rw [htrace', htrace, List.append_assoc]
  · exact List.filterMap_append
  · exact List.filterMap_append
  · exact List.filterMap_append

/-- The requests behind a change. -/
theorem requests_eq (h : Adds views requests pages s t) : t.requests = s.requests ++ requests := by
  obtain ⟨es, htrace, -, rfl, -⟩ := h
  have heq : ∀ u : Session, u.requests = u.trace.filterMap Effect.request? := by
    intro u
    unfold Session.requests
    congr 1
  rw [heq, heq, htrace, List.filterMap_append]

/-- The pages that were displayed, behind a change. -/
theorem shown_eq (h : Adds views requests pages s t) : t.shown = s.shown ++ pages := by
  obtain ⟨es, htrace, -, -, rfl⟩ := h
  exact shown_of_trace htrace

/-- An effect adds what it does. -/
theorem emit (e : Effect) (s : Session) :
    Adds e.view?.toList e.request?.toList e.shown?.toList s (s.emit e) := by
  refine ⟨[e], rfl, ?_, ?_, ?_⟩
  · cases h : e.view? <;> simp [h]
  · cases h : e.request? <;> simp [h]
  · cases h : e.shown? <;> simp [h]

/-- A request that waits is added. -/
theorem asking (purpose : Purpose) (call : Api.Call) (s : Session) :
    Adds [] [s.services.client.request call] [] s (s.asking purpose call) :=
  ⟨_, rfl, rfl, rfl, rfl⟩

/-- A timer that is set adds nothing. -/
theorem schedule (p : Nat) (s : Session) : Adds [] [] [] s (s.schedule p) := by
  have hcancel : Adds [] [] [] s (s.cancelTimer p) := by
    unfold cancelTimer
    split
    · exact .of_trace rfl
    · exact ⟨_, rfl, rfl, rfl, rfl⟩
  exact hcancel

/-- A dashboard that is rendered adds its view, if it has an inventory. -/
theorem renderDashboard {p : Nat} {d : Dashboard}
    (hd : s.dashboardOf p = some d) :
    Adds (d.snapshot.toList.map (inventoryView s.now (d.horizon.getD s.services.tuning.horizon)))
      [] [] s (s.renderDashboard p) := by
  unfold dashboardOf at hd
  unfold Session.renderDashboard
  rcases hsnapshot : d.snapshot with _ | certificates
  · simp only [hd, hsnapshot]
    exact .of_trace rfl
  · simp only [hd, hsnapshot]
    exact ⟨[_, _], by simp only [Session.emit, List.append_assoc]; rfl, rfl, rfl, rfl⟩

/-- **A horizon that is changed** adds the view behind that, if there is an inventory.

**Proof sketch.** The session behind the gesture is known (`toggle_eq`): the horizon is set, which
adds nothing, and the dashboard is rendered again, which adds one view if there is an inventory
(`renderDashboard`). -/
theorem toggle (hs : s.Sound) {p : Nat} (hp : s.current = some p) {d : Dashboard}
    (hd : s.dashboardOf p = some d) :
    Adds (d.snapshot.toList.map (inventoryView s.now (s.otherHorizon d.horizon))) [] [] s
      (s.toggle p) := by
  rw [hs.toggle_eq hp hd]
  generalize s.otherHorizon d.horizon = horizon
  have hchange : Adds [] [] [] s ((s.log (.horizonToggled horizon)).modifyDashboard p
      fun d' => { d' with horizon := some horizon }) := ⟨_, rfl, rfl, rfl, rfl⟩
  have hlog : (s.log (.horizonToggled horizon)).dashboardOf p = some d := hd
  have hchanged := dashboardOf_modifyDashboard_self hlog
    fun d' => { d' with horizon := some horizon }
  exact hchange.trans (renderDashboard hchanged)

/-- **An inventory that comes** adds its view. -/
theorem refreshed {p : Nat} {d : Dashboard} (hd : s.dashboardOf p = some d)
    (certificates : List Certificate) :
    Adds [inventoryView s.now (d.horizon.getD s.services.tuning.horizon) certificates] [] [] s
      (s.refreshed p certificates) := by
  have hchange : Adds [] [] [] s
      (s.modifyDashboard p fun d => { d with snapshot := some certificates }) := .of_trace rfl
  have hchanged := dashboardOf_modifyDashboard_self hd
    fun d => { d with snapshot := some certificates }
  exact (hchange.trans (renderDashboard hchanged)).trans (schedule p _)

/-- **A page that is displayed** is added, and if it is a dashboard its first request.

**Proof sketch.** The trace grows by a log line, the farewell of the page before and the greeting of
this one. The farewell neither renders nor asks; the greeting displays the page, and asks for the
inventory if that is a dashboard. -/
theorem showing {page : Page} (hown : page.body.IsOwn) (p : Nat) (s : Session) :
    Adds [] (if page.kind = .dashboard then [s.services.client.request .inventory] else []) [p] s
      (s.showing p page) := by
  have hfarewell : s.farewell.filterMap Effect.view? = [] ∧
      s.farewell.filterMap Effect.request? = [] ∧ s.farewell.filterMap Effect.shown? = [] := by
    refine ⟨?_, ?_, ?_⟩ <;>
      exact filterMap_farewell (fun _ => rfl) (fun _ => rfl) (fun _ => rfl) s
  have hgreeting : (s.greeting p page).filterMap Effect.view? = [] ∧
      (s.greeting p page).filterMap Effect.request? =
        (if page.kind = .dashboard then [s.services.client.request .inventory] else []) ∧
      (s.greeting p page).filterMap Effect.shown? = [p] := by
    obtain ⟨body, hasContext, isActive⟩ := page
    cases body with
    | login message => exact ⟨rfl, rfl, rfl⟩
    | dashboard d => exact ⟨rfl, rfl, rfl⟩
    | probe name kind hidesMenu => exact hown.elim
  refine ⟨_, trace_showing p page s, ?_, ?_, ?_⟩
  · rw [List.filterMap_append, List.filterMap_append, hfarewell.1, hgreeting.1]
    rfl
  · rw [List.filterMap_append, List.filterMap_append, hfarewell.2.1, hgreeting.2.1]
    rfl
  · rw [List.filterMap_append, List.filterMap_append, hfarewell.2.2, hgreeting.2.2]
    rfl

end Adds

/-! ## Calm changes -/

/-- **A calm change**: it is quiet and adds nothing, and leaves the pages as they are but for new
ones. -/
structure Calm (s t : Session) : Prop where
  /-- It is quiet. -/
  quiet : Quiet s t
  /-- It adds nothing. -/
  adds : Adds [] [] [] s t
  /-- New pages were just made. -/
  pages : ∃ made, t.pages = s.pages ++ made ∧ ∀ page ∈ made, page.IsFresh

namespace Calm

variable {s t u : Session}

/-- A quiet change of what is neither a page nor an effect is calm. -/
theorem of_quiet (h : Quiet s t) (htrace : t.trace = s.trace) (hpages : t.pages = s.pages) :
    Calm s t :=
  ⟨h, .of_trace htrace, [], by simp [hpages], by simp⟩

/-- No change is calm. -/
theorem refl (s : Session) : Calm s s :=
  of_quiet (.refl s) rfl rfl

/-- Calm changes one after another are a calm change. -/
theorem trans (h : Calm s t) (h' : Calm t u) : Calm s u := by
  obtain ⟨made, hmade, hfresh⟩ := h.pages
  obtain ⟨made', hmade', hfresh'⟩ := h'.pages
  refine ⟨h.quiet.trans h'.quiet, h.adds.trans h'.adds, made ++ made', ?_, ?_⟩
  · rw [hmade', hmade, List.append_assoc]
  · intro page hpage
    rcases List.mem_append.mp hpage with hpage | hpage
    · exact hfresh page hpage
    · exact hfresh' page hpage

/-- A quiet effect that renders no certificates and sends nothing is calm. -/
theorem emit {e : Effect} (he : e.IsQuiet) (hview : e.view? = none) (hrequest : e.request? = none)
    (s : Session) : Calm s (s.emit e) := by
  have hadds := Adds.emit e s
  rw [hview, hrequest, he.2] at hadds
  exact ⟨.emit he s, hadds, [], by simp [Session.emit], by simp⟩

/-- Logging is calm. -/
theorem log (event : Log.Event) (s : Session) : Calm s (s.log event) :=
  emit (Effect.isQuiet_log event) rfl rfl s

/-- The answer to a request is calm. -/
theorem answered {rest : List (Api.Request × Purpose)} (h : rest <:+ s.wire.waiting)
    (request : Api.Request) (reply : Api.Reply) : Calm s (s.answered rest request reply) := by
  refine ⟨quiet_answered h request reply, ⟨_, rfl, ?_, ?_, ?_⟩, [], by simp [Session.answered],
    by simp⟩
  all_goals simp [List.filterMap_map, Function.comp_def, Effect.view?, Effect.request?,
    Effect.shown?]

/-- Making a page is calm. -/
theorem addPage {page : Page} (hpage : page.IsFresh) (s : Session) :
    Calm s (s.addPage page).2 := by
  obtain ⟨body, hbody, rfl⟩ := hpage
  exact ⟨.addPage hbody s, .of_trace rfl, [.fresh body], rfl, by simpa using ⟨body, hbody, rfl⟩⟩

/-- Removing the session token is calm. -/
theorem clearToken (s : Session) : Calm s s.clearToken :=
  (log (.tokenCleared s.services.cookie) s).trans
    ⟨(Quiet.emit (e := .cookie (Cookie.expiry s.services.cookie)) ⟨fun _ => rfl, rfl⟩ _).trans
      (.of_core rfl rfl rfl rfl), ⟨_, rfl, rfl, rfl, rfl⟩, [], by simp [Session.clearToken,
        writeCookie, Session.emit], by simp⟩

/-- Making logging out possible, or not, is calm. -/
theorem wireLogout (auth : Api.AuthMethod) (s : Session) : Calm s (s.wireLogout auth) := by
  refine ⟨.wireLogout auth s, ?_, [], ?_, by simp⟩
  · cases auth with
    | anonymous => exact ⟨_, rfl, rfl, rfl, rfl⟩
    | userpass =>
      have havailable := Adds.emit (.logoutAvailable true) s
      exact havailable.trans ⟨_, rfl, rfl, rfl, rfl⟩
  · cases auth <;> simp [Session.wireLogout, bind, Session.emit]

/-- Clearing the login form is calm. -/
theorem cleared (s : Session) : Calm s s.cleared := by
  have hform : Calm s { s with form := { s.form with password := "" } } :=
    of_quiet (.of_core rfl rfl rfl rfl) rfl rfl
  exact (hform.trans (emit (e := .clearPassword) ⟨fun _ => rfl, rfl⟩ rfl rfl _)).trans
    (log .loginAttempt _)

/-- The dashboard of a page that there was before a calm change. -/
theorem dashboardOf_eq (h : Calm s t) {p : Nat} (hp : p < s.pages.length) :
    t.dashboardOf p = s.dashboardOf p := by
  obtain ⟨made, hmade, -⟩ := h.pages
  unfold dashboardOf
  rw [hmade, List.getElem?_append_left hp]

/-- A dashboard behind a calm change was there before, or was just made.

**Proof sketch.** A calm change puts new pages behind the old ones. A dashboard at an old place was
there before, and a new one has no inventory yet. -/
theorem of_dashboardOf (h : Calm s t) {p : Nat} {d : Dashboard}
    (hd : t.dashboardOf p = some d) : s.dashboardOf p = some d ∨ d.snapshot = none := by
  obtain ⟨made, hmade, hfresh⟩ := h.pages
  obtain ⟨page, hpage, hdashboard⟩ := Option.bind_eq_some_iff.mp hd
  rw [hmade, List.getElem?_append] at hpage
  split at hpage
  · exact .inl (Option.bind_eq_some_iff.mpr ⟨page, hpage, hdashboard⟩)
  · obtain ⟨body, hbody, rfl⟩ := hfresh page (List.mem_of_getElem? hpage)
    cases body with
    | login message => exact absurd hdashboard (by simp [Page.fresh, Page.dashboard?])
    | dashboard d' =>
      obtain rfl : d' = ⟨none, none, none⟩ := hbody
      obtain rfl : ⟨none, none, none⟩ = d := Option.some_inj.mp hdashboard
      exact .inr rfl
    | probe name kind hidesMenu => exact hbody.elim

end Calm

end Session

end CertDashboard
