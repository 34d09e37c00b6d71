import CertDashboard.Proofs.Session.Outcome

set_option autoImplicit false
set_option relaxedAutoImplicit false

/-!
# The dashboards of a session

## Main definitions

* `CertDashboard.Session.dashboardOf` — the dashboard of a page.
* `CertDashboard.Session.refreshed` — the session behind an inventory that comes to a page.

## Main results

* `CertDashboard.Session.dashboardOf_refreshed`, `CertDashboard.Session.Sound.dashboardOf_toggle` —
  the dashboards behind an inventory and behind a change of the horizon.
* `CertDashboard.Session.dashboardOf_showing` — the dashboards behind the display of a page.
-/

namespace CertDashboard

namespace Session

/-- The dashboard of a page, if it is one. -/
def dashboardOf (p : Nat) (s : Session) : Option Dashboard :=
  s.pages[p]?.bind Page.dashboard?

/-- **The session behind an inventory** that comes to a page: the page is rendered, and its next
refresh is due. -/
def refreshed (p : Nat) (certificates : List Certificate) (s : Session) : Session :=
  ((s.modifyDashboard p fun d => { d with snapshot := some certificates }).renderDashboard
    p).schedule p

/-- The view of an inventory, by whether there are bands within the horizon. -/
theorem inventoryView_eq (now : Int64) (horizon : Horizon) (certificates : List Certificate) :
    (Expiry.bandsWithin now horizon certificates = [] →
      inventoryView now horizon certificates = .noCertificates (horizon == .unbounded)) ∧
    (Expiry.bandsWithin now horizon certificates ≠ [] →
      inventoryView now horizon certificates = .certificates
        ((Expiry.bandsWithin now horizon certificates).map BandView.ofBand)
          (horizon == .unbounded)) := by
  unfold inventoryView View.ofBands
  rcases Expiry.bandsWithin now horizon certificates with _ | ⟨band, bands⟩ <;> simp

/-- A dashboard that is changed. -/
theorem dashboardOf_modifyDashboard (p q : Nat) (f : Dashboard → Dashboard) (s : Session) :
    (s.modifyDashboard p f).dashboardOf q =
      (s.dashboardOf q).map fun d => if p = q then f d else d := by
  unfold dashboardOf modifyDashboard modifyPage
  rw [List.getElem?_modify]
  rcases s.pages[q]? with _ | ⟨body, hasContext, isActive⟩
  · rfl
  · by_cases hpq : p = q
    · cases body <;> simp [hpq, Page.mapDashboard, Page.dashboard?]
    · simp [hpq]

/-- The dashboard of a page, behind the change of it. -/
theorem dashboardOf_modifyDashboard_self {s : Session} {p : Nat} {d : Dashboard}
    (h : s.dashboardOf p = some d) (f : Dashboard → Dashboard) :
    (s.modifyDashboard p f).dashboardOf p = some (f d) := by
  rw [dashboardOf_modifyDashboard, h, Option.map_some, if_pos rfl]

/-- Rendering a dashboard leaves the dashboards alone. -/
theorem dashboardOf_renderDashboard (p q : Nat) (s : Session) :
    (s.renderDashboard p).dashboardOf q = s.dashboardOf q := by
  obtain ⟨trace, hrender⟩ := s.exists_renderDashboard p
  rw [hrender]
  rfl

/-- A timer that is set for a dashboard. -/
theorem dashboardOf_schedule (p q : Nat) (s : Session) : (s.schedule p).dashboardOf q =
    (s.dashboardOf q).map fun d =>
      if p = q then { d with timer := some (s.callbacks.length + 1) } else d := by
  have hcancel : (s.cancelTimer p).dashboardOf q =
      (s.modifyDashboard p fun d => { d with timer := none }).dashboardOf q := by
    rw [cancelTimer_eq]
    rfl
  have hschedule : (s.schedule p).dashboardOf q = ((s.cancelTimer p).modifyDashboard p
      fun d => { d with timer := some (s.callbacks.length + 1) }).dashboardOf q := rfl
  rw [hschedule, dashboardOf_modifyDashboard, hcancel, dashboardOf_modifyDashboard, Option.map_map]
  congr 1
  funext d
  by_cases hpq : p = q <;> simp [hpq]

/-- **The dashboards behind an inventory** that comes to one of them.

**Proof sketch.** The three steps of the change one by one: the inventory is put in, rendering
changes no page, and the timer that is set has the number of callbacks behind it, which rendering
leaves as they are. -/
theorem dashboardOf_refreshed (p q : Nat) (certificates : List Certificate) (s : Session) :
    (s.refreshed p certificates).dashboardOf q = (s.dashboardOf q).map fun d =>
      if p = q then { d with snapshot := some certificates
                             timer := some (s.callbacks.length + 1) } else d := by
  have hcallbacks : ((s.modifyDashboard p fun d => { d with snapshot := some certificates
      }).renderDashboard p).callbacks = s.callbacks := by
    obtain ⟨trace, hrender⟩ := exists_renderDashboard p
      (s.modifyDashboard p fun d => { d with snapshot := some certificates })
    rw [hrender]
    rfl
  unfold refreshed
  rw [dashboardOf_schedule, dashboardOf_renderDashboard, dashboardOf_modifyDashboard, hcallbacks,
    Option.map_map]
  congr 1
  funext d
  by_cases hpq : p = q <;> simp [hpq]

/-- An inventory that comes leaves the current page and what pages are built from alone. -/
theorem refreshed_frame (p : Nat) (certificates : List Certificate) (s : Session) :
    (s.refreshed p certificates).current = s.current ∧
      (s.refreshed p certificates).services = s.services := by
  obtain ⟨trace, hrender⟩ := exists_renderDashboard p
    (s.modifyDashboard p fun d => { d with snapshot := some certificates })
  unfold refreshed schedule
  rw [cancelTimer_eq, hrender]
  exact ⟨rfl, rfl⟩

/-- The dashboards behind another timer. -/
theorem dashboardOf_withTimer (p q : Nat) (timer : Option Nat) (callbacks : List Callback)
    (s : Session) : (s.withTimer p timer callbacks).dashboardOf q =
      (s.dashboardOf q).map fun d => if p = q then { d with timer := timer } else d :=
  dashboardOf_modifyDashboard p q (fun d => { d with timer := timer }) s

/-- The dashboards behind the display of a page: no timer is due, and the page that is displayed has
the horizon of the collapsed view. -/
theorem dashboardOf_showing (p q : Nat) (page : Page) (s : Session) :
    (s.showing p page).dashboardOf q = (s.dashboardOf q).map fun d =>
      if p = q then ⟨some s.services.tuning.horizon, d.snapshot, none⟩
      else { d with timer := none } := by
  unfold dashboardOf
  rw [getElem?_showing]
  rcases s.pages[q]? with _ | ⟨body, hasContext, isActive⟩
  · rfl
  · by_cases hpq : p = q
    · cases body <;>
        simp [hpq, Page.retired, Page.entered, Page.mapDashboard, Page.dashboard?]
    · cases body <;> simp [hpq, Page.retired, Page.mapDashboard, Page.dashboard?]

namespace Sound

variable {s : Session}

/-- The current page answers. -/
theorem active?_eq (hs : s.Sound) {p : Nat} (hp : s.current = some p) :
    s.active? p = s.pages[p]? := by
  obtain ⟨page, hpage, hactive, -⟩ := hs.exists_page hp
  have hsome := (hs.isSome_active?_iff p).mpr hp
  unfold active? at hsome ⊢
  split at hsome
  · next hlive => simp [hlive, hpage, hactive]
  · exact absurd hsome (by simp)

/-- The current page, if it is a dashboard. -/
theorem exists_dashboard (hs : s.Sound) {p : Nat} (hkind : s.kindOf p = some .dashboard) :
    ∃ d, s.dashboardOf p = some d := by
  obtain ⟨page, hpage, hdashboard⟩ := Option.map_eq_some_iff.mp hkind
  obtain ⟨d, hbody⟩ := body_of_dashboard (hs.own page (List.mem_of_getElem? hpage)) hdashboard
  exact ⟨d, by simp [dashboardOf, hpage, Page.dashboard?, hbody]⟩

/-- Changing the horizon of the dashboard that is current, and rendering it. -/
theorem toggle_eq (hs : s.Sound) {p : Nat} (hp : s.current = some p) {d : Dashboard}
    (hd : s.dashboardOf p = some d) :
    s.toggle p = ((s.log (.horizonToggled (s.otherHorizon d.horizon))).modifyDashboard p
      fun d' => { d' with horizon := some (s.otherHorizon d.horizon) }).renderDashboard p := by
  have hactive : (s.active? p).bind Page.dashboard? = some d := by
    rw [hs.active?_eq hp]
    exact hd
  unfold toggle
  simp only [hactive]

/-- **The dashboards behind a change of the horizon** of the current one. -/
theorem dashboardOf_toggle (hs : s.Sound) {p : Nat} (hp : s.current = some p) {d : Dashboard}
    (hd : s.dashboardOf p = some d) (q : Nat) :
    (s.toggle p).dashboardOf q = (s.dashboardOf q).map fun d' =>
      if p = q then { d' with horizon := some (s.otherHorizon d.horizon) } else d' := by
  rw [hs.toggle_eq hp hd, dashboardOf_renderDashboard, dashboardOf_modifyDashboard]
  rfl

end Sound

end Session

end CertDashboard
