import CertDashboard.Proofs.Session.History
import CertDashboard.Proofs.Session.Polling

set_option autoImplicit false
set_option relaxedAutoImplicit false

/-!
# The picture of a dashboard

What a dashboard shows is the last inventory that came to it, with the horizon as it was changed so
often, and as of the last time that either happened. Nothing else is ever rendered among the
certificates, as long as no page comes to the screen twice.

## Main definitions

* `CertDashboard.Session.painted` — the views of certificates since a page was displayed.
* `CertDashboard.Session.Pictured` — the invariant of the pictures.

## Main results

* `CertDashboard.Session.Sound.pictured_of_deed` — ordinary actions keep the invariant.
* `CertDashboard.Session.Past.pictured` — what the dashboard that is current shows.
-/

namespace CertDashboard

namespace Session

/-! ## Views -/

/-- **The views of certificates that were rendered since a page was displayed.** -/
def painted (p : Nat) (s : Session) : List View :=
  (s.trace.dropWhile fun e => e.shown? ≠ some p).filterMap Effect.view?

/-- The views of certificates since a page was displayed are the last ones of all. -/
theorem painted_suffix (p : Nat) (s : Session) : s.painted p <:+ s.renders .certificatePanel := by
  have hrenders : s.renders .certificatePanel = s.trace.filterMap Effect.view? := by
    unfold renders
    congr 1
    funext e
    cases e with
    | render surface view => cases surface <;> rfl
    | _ => rfl
  rw [hrenders]
  exact (List.dropWhile_suffix _).filterMap _

/-- A page was displayed if and only if an effect says so. -/
theorem mem_shown_iff {p : Nat} {s : Session} :
    p ∈ s.shown ↔ ∃ e ∈ s.trace, e.shown? = some p := by
  have hshown : s.shown = s.trace.filterMap Effect.shown? :=
    shown_of_trace (s := { s with trace := [] }) (List.nil_append _).symm
  rw [hshown, List.mem_filterMap]

namespace Adds

variable {s t : Session} {views : List View} {requests : List Api.Request} {pages : List Nat}
  {p : Nat}

/-- What is rendered is added to the views since a page was displayed that was. -/
theorem painted_eq (h : Adds views requests pages s t) (hp : p ∈ s.shown) :
    t.painted p = s.painted p ++ views := by
  obtain ⟨es, htrace, rfl, -, -⟩ := h
  obtain ⟨e, he, hshown⟩ := mem_shown_iff.mp hp
  have hne : s.trace.dropWhile (fun e => e.shown? ≠ some p) ≠ [] := by
    rw [Ne, List.dropWhile_eq_nil_iff]
    intro hall
    simpa [hshown] using hall e he
  unfold painted
  rw [htrace, List.dropWhile_append, if_neg (by simpa using hne), List.filterMap_append]

/-- Nothing was rendered since a page was displayed if it was not before, and nothing is rendered
now. -/
theorem painted_eq_nil (h : Adds [] requests pages s t) (hp : p ∉ s.shown) : t.painted p = [] := by
  obtain ⟨es, htrace, hviews, -, -⟩ := h
  have hall : ∀ e ∈ s.trace, decide (e.shown? ≠ some p) = true := by
    intro e he
    exact decide_eq_true fun hshown => hp (mem_shown_iff.mpr ⟨e, he, hshown⟩)
  unfold painted
  rw [htrace, List.dropWhile_append_of_pos hall]
  rw [List.filterMap_eq_nil_iff] at hviews ⊢
  intro e he
  exact hviews e ((List.dropWhile_suffix _).mem he)

end Adds

/-! ## The invariant -/

/-- **The invariant of the pictures**, by the turns of each page. -/
structure Pictured (turns : Nat → List Turn) (s : Session) : Prop where
  /-- A page that was never displayed has no inventory, and nothing turned its picture. -/
  unseen : ∀ p, p ∉ s.shown → turns p = [] ∧ ∀ d, s.dashboardOf p = some d → d.snapshot = none
  /-- As long as no page was displayed twice, the dashboard that is current shows what the turns of
  its picture made of it. -/
  current : s.shown.Nodup → ∀ p d, s.current = some p → s.dashboardOf p = some d →
    Drawn (turns p) d (s.painted p) s.services.tuning.horizon

/-- Nothing turns the picture of a page that was never displayed.

**Proof sketch.** A reply turns the picture of the page that asked, and a page that was never
displayed has asked for nothing, by the pace. The gesture that changes the horizon turns the current
page, which was displayed. -/
theorem Sound.turn?_unseen {s : Session} (hs : s.Sound) (hpaced : s.Paced) {p : Nat}
    (hp : p ∉ s.shown) (action : Action) : s.turn? p action = none := by
  cases action with
  | reply reply =>
    rcases hwaiting : s.wire.waiting with _ | ⟨⟨request, purpose⟩, rest⟩
    · simp [turn?, hwaiting]
    · refine turn?_reply_of_ne hwaiting ?_ reply
      rintro rfl
      have hnone := hpaced.unseen p hp
      unfold polls at hnone
      rw [hwaiting] at hnone
      simp at hnone
  | gesture g =>
    cases g with
    | toggleHorizon =>
      refine if_neg fun hbound => hp ?_
      exact hs.shown p (hs.of_bound_toggle hbound).2.1
    | loginSubmit => rfl
    | logout => rfl
  | _ => rfl

namespace Pictured

variable {s t : Session} {turns turns' : Nat → List Turn}

/-- **A change that displays no page keeps the invariant**, if it draws the dashboard that is
current as the turns of its picture have it.

**Proof sketch.** Pages that were displayed are the same, and so the page that is current is painted
with what it was painted with before and the new views (`painted_eq`). What these are drawn by is
the last hypothesis. -/
theorem of_adds (h : Pictured turns s) (hs : s.Sound) {views : List View}
    {requests : List Api.Request} (hadds : Adds views requests [] s t)
    (hcurrent : t.current = s.current) (hservices : t.services = s.services)
    (hturns : ∀ p, p ∉ s.shown → turns' p = turns p)
    (hunseen : ∀ p d, p ∉ s.shown → t.dashboardOf p = some d → d.snapshot = none)
    (hdrawn : ∀ p d', s.current = some p → t.dashboardOf p = some d' →
      ∃ d, s.dashboardOf p = some d ∧
        (Drawn (turns p) d (s.painted p) s.services.tuning.horizon →
          Drawn (turns' p) d' (s.painted p ++ views) s.services.tuning.horizon)) :
    Pictured turns' t := by
  have hshown : t.shown = s.shown := hadds.shown_eq.trans (List.append_nil _)
  refine ⟨fun p hp => ?_, fun hnodup p d' hp hd' => ?_⟩
  · rw [hshown] at hp
    exact ⟨(hturns p hp).trans (h.unseen p hp).1, fun d => hunseen p d hp⟩
  · rw [hcurrent] at hp
    rw [hshown] at hnodup
    rw [hadds.painted_eq (hs.shown p hp), hservices]
    obtain ⟨d, hd, hnext⟩ := hdrawn p d' hp hd'
    exact hnext (h.current hnodup p d hp hd)

/-- **A page that is displayed keeps the invariant**: if it was never displayed before, it has
nothing to show yet.

**Proof sketch.** Of a page that is displayed for the second time there is nothing to prove, since
the invariant speaks of pages that were displayed once only. One that is displayed for the first
time had no turns and no inventory, and nothing was painted on it, so that it is drawn fresh. -/
theorem showing (hs : s.Sound) (hunseen : ∀ p, p ∉ s.shown → turns p = [] ∧
      ∀ d, s.dashboardOf p = some d → d.snapshot = none) {p : Nat} {page : Page}
    (hpage : s.pages[p]? = some page) : Pictured turns (s.showing p page) := by
  have hadds := Adds.showing (hs.own page (List.mem_of_getElem? hpage)) p s
  refine ⟨fun q hq => ?_, fun hnodup q d hq hd => ?_⟩
  · rw [hadds.shown_eq, List.mem_append, not_or] at hq
    obtain ⟨hnone, hsnapshot⟩ := hunseen q hq.1
    refine ⟨hnone, fun d hd => ?_⟩
    rw [dashboardOf_showing] at hd
    obtain ⟨old, hold, rfl⟩ := Option.map_eq_some_iff.mp hd
    split <;> exact hsnapshot old hold
  · obtain rfl : p = q := Option.some_inj.mp hq
    rw [hadds.shown_eq, List.nodup_append] at hnodup
    have hnew : p ∉ s.shown := fun hp => hnodup.2.2 p hp p (by simp) rfl
    obtain ⟨hnone, hsnapshot⟩ := hunseen p hnew
    rw [dashboardOf_showing] at hd
    obtain ⟨old, hold, rfl⟩ := Option.map_eq_some_iff.mp hd
    rw [if_pos rfl, hsnapshot old hold, hnone, hadds.painted_eq_nil hnew]
    exact .fresh _ none

/-- A calm change keeps the invariant. -/
theorem calm (h : Pictured turns s) (hs : s.Sound) (hcalm : Calm s t) : Pictured turns t := by
  refine h.of_adds hs hcalm.adds hcalm.quiet.current_eq hcalm.quiet.services_eq (fun _ _ => rfl)
    (fun p d hp hd => ?_) fun p d hp hd => ⟨d, ?_, fun hold => ?_⟩
  · rcases hcalm.of_dashboardOf hd with hd | hnone
    · exact (h.unseen p hp).2 d hd
    · exact hnone
  · obtain ⟨page, hpage, -⟩ := hs.exists_page hp
    rwa [hcalm.dashboardOf_eq (List.getElem?_eq_some_iff.mp hpage).1] at hd
  · rwa [List.append_nil]

/-- A request that waits keeps the invariant. -/
theorem asking (h : Pictured turns s) (hs : s.Sound) (purpose : Purpose) (call : Api.Call) :
    Pictured turns (s.asking purpose call) := by
  refine h.of_adds hs (.asking purpose call s) rfl rfl (fun _ _ => rfl)
    (fun p d hp => (h.unseen p hp).2 d) fun p d hp hd => ⟨d, hd, fun hold => ?_⟩
  rwa [List.append_nil]

/-- Another timer keeps the invariant. -/
theorem withTimer (h : Pictured turns s) (hs : s.Sound) (p : Nat) (timer : Option Nat)
    (callbacks : List Callback) : Pictured turns (s.withTimer p timer callbacks) := by
  have hadds : Adds [] [] [] s (s.withTimer p timer callbacks) := .of_trace rfl
  refine h.of_adds hs hadds rfl rfl (fun _ _ => rfl) (fun q d hq hd => ?_) fun q d hq hd => ?_
  · rw [dashboardOf_withTimer] at hd
    obtain ⟨old, hold, rfl⟩ := Option.map_eq_some_iff.mp hd
    split <;> exact (h.unseen q hq).2 old hold
  · rw [dashboardOf_withTimer] at hd
    obtain ⟨old, hold, rfl⟩ := Option.map_eq_some_iff.mp hd
    refine ⟨old, hold, fun hdrawn => ?_⟩
    rw [List.append_nil]
    split
    · exact hdrawn.withTimer timer
    · exact hdrawn

/-- **A horizon that is changed keeps the invariant**, with that turn.

**Proof sketch.** The change adds the view behind the new horizon (`Adds.toggle`), and the dashboard
that is current has that horizon then. Drawn by one more turn, it is the other one of the two
horizons (`otherHorizon_horizonAfter`, `Drawn.toggle`). -/
theorem toggle (h : Pictured turns s) (hs : s.Sound) {p : Nat} (hp : s.current = some p)
    (hkind : s.kindOf p = some .dashboard) (hturns : ∀ q, q ∉ s.shown → turns' q = turns q)
    (hturn : turns' p = turns p ++ [.toggle s.now]) : Pictured turns' (s.toggle p) := by
  obtain ⟨d, hd⟩ := hs.exists_dashboard hkind
  have hquiet := hs.quiet_toggle p
  refine h.of_adds hs (.toggle hs hp hd) hquiet.current_eq hquiet.services_eq hturns
    (fun q d' hq hd' => ?_) fun q d' hq hd' => ?_
  · rw [hs.dashboardOf_toggle hp hd] at hd'
    obtain ⟨old, hold, rfl⟩ := Option.map_eq_some_iff.mp hd'
    split <;> exact (h.unseen q hq).2 old hold
  · obtain rfl : p = q := Option.some_inj.mp (hp.symm.trans hq)
    rw [hs.dashboardOf_toggle hp hd, hd, Option.map_some, if_pos rfl] at hd'
    obtain rfl := Option.some_inj.mp hd'
    refine ⟨d, hd, fun hdrawn => ?_⟩
    rw [hturn, hdrawn.horizon, otherHorizon_horizonAfter]
    exact hdrawn.toggle s.now

/-- **An inventory that comes keeps the invariant**, with that turn.

**Proof sketch.** The inventory adds one view (`Adds.refreshed`), and the dashboard that is current
has it as its last one. That is one more turn of the picture (`Drawn.inventory`), on which the new
timer has no influence. -/
theorem refreshed (h : Pictured turns s) (hs : s.Sound) {p : Nat} (hp : s.current = some p)
    (hkind : s.kindOf p = some .dashboard) {certificates : List Certificate}
    (hturns : ∀ q, q ∉ s.shown → turns' q = turns q)
    (hturn : turns' p = turns p ++ [.inventory s.now certificates]) :
    Pictured turns' (s.refreshed p certificates) := by
  obtain ⟨d, hd⟩ := hs.exists_dashboard hkind
  obtain ⟨hcurrent, hservices⟩ := refreshed_frame p certificates s
  refine h.of_adds hs (.refreshed hd certificates) hcurrent hservices hturns
    (fun q d' hq hd' => ?_) fun q d' hq hd' => ?_
  · have hpq : p ≠ q := fun heq => hq (heq ▸ hs.shown p hp)
    rw [dashboardOf_refreshed] at hd'
    obtain ⟨old, hold, rfl⟩ := Option.map_eq_some_iff.mp hd'
    rw [if_neg hpq]
    exact (h.unseen q hq).2 old hold
  · obtain rfl : p = q := Option.some_inj.mp (hp.symm.trans hq)
    rw [dashboardOf_refreshed, hd, Option.map_some, if_pos rfl] at hd'
    obtain rfl := Option.some_inj.mp hd'
    refine ⟨d, hd, fun hdrawn => ?_⟩
    rw [hturn]
    exact (hdrawn.inventory s.now certificates).withTimer _

/-- Turns of other pages do not matter. -/
theorem congr (h : Pictured turns s) (hunseen : ∀ p, p ∉ s.shown → turns' p = turns p)
    (hcurrent : ∀ p, s.current = some p → turns' p = turns p) : Pictured turns' s := by
  refine ⟨fun p hp => ?_, fun hnodup p d hp hd => ?_⟩
  · rw [hunseen p hp]
    exact h.unseen p hp
  · rw [hcurrent p hp]
    exact h.current hnodup p d hp hd

end Pictured

namespace Sound

variable {s t : Session} {turns : Nat → List Turn}

/-- **Ordinary actions keep the invariant**, with the turns that they are.

**Proof sketch.** By the deeds. Pages that were never displayed are turned by none of them
(`turn?_unseen`). A page that is displayed, a change of the horizon and an inventory have their
lemmas above; resting, a login and a timer that is up turn nothing and paint nothing. -/
theorem pictured_of_deed (hs : s.Sound) (hpaced : s.Paced) (h : Pictured turns s) {action : Action}
    (hdeed : Deed s action t) :
    Pictured (fun p => turns p ++ (s.turn? p action).toList) t := by
  have hunseen : ∀ p, p ∉ s.shown → turns p ++ (s.turn? p action).toList = turns p := by
    intro p hp
    rw [hs.turn?_unseen hpaced hp]
    exact List.append_nil _
  cases hdeed with
  | rests hcalm hturn =>
    refine (h.congr hunseen fun p hp => ?_).calm hs hcalm
    rw [hturn p hp]
    exact List.append_nil _
  | @shows u _ p page hcalm hpage _ hafter =>
    have hsound := hs.quiet hcalm.quiet
    refine (Pictured.showing hsound (fun q hq => ?_) hpage).calm (hsound.showing hpage) hafter
    have hbefore := (h.calm hs hcalm).unseen q hq
    rw [hcalm.quiet.shown_eq] at hq
    rwa [hunseen q hq]
  | submits credentials haction hcalm _ _ =>
    subst haction
    exact ((h.congr hunseen fun _ _ => List.append_nil _).calm hs hcalm).asking
      (hs.quiet hcalm.quiet) _ _
  | @toggles p haction hp hkind =>
    subst haction
    refine h.toggle hs hp hkind hunseen ?_
    have hturn : s.turn? p (.gesture .toggleHorizon) = some (.toggle s.now) :=
      if_pos (hs.dashboardScreen hp hkind).toggle
    rw [hturn]
    rfl
  | @refreshes u p certificates hturn hp hkind hcalm hnow =>
    have hcurrent := hcalm.quiet.current_eq.trans hp
    refine (h.calm hs hcalm).refreshed (hs.quiet hcalm.quiet) hcurrent
      (hcalm.quiet.kindOf hkind) (fun q hq => ?_) ?_
    · rw [hcalm.quiet.shown_eq] at hq
      exact hunseen q hq
    · rw [hturn, hnow]
      rfl
  | @elapses p callbacks haction hp hkind =>
    subst haction
    exact ((h.congr hunseen fun _ _ => List.append_nil _).withTimer hs p none callbacks).asking
      (hs.withTimer hp hkind (by simp)) _ _

end Sound

/-- **The invariant holds in all states of a live session**, by the turns of its past.

**Proof sketch.** Induction on the past. A session begins without pages. A step is the deed of its
action (`Sound.deed`), which appends the turn of that action (`pictured_of_deed`). -/
theorem Past.drawn {past : List Moment} {s : Session} (h : Past past s) :
    Pictured (fun p => turns p past) s := by
  induction h with
  | begin hs =>
    have hbegins : ∀ u : Session, u.pages = [] → u.current = none →
        Pictured (fun p => turns p []) u := by
      intro u hpages hcurrent
      refine ⟨fun p _ => ⟨rfl, fun d hd => ?_⟩, fun _ p d hp _ => ?_⟩
      · simp [dashboardOf, hpages] at hd
      · exact absurd (hcurrent.symm.trans hp) (by simp)
    cases hs with
    | blank services now cookies => exact hbegins _ rfl rfl
    | asking services now cookies =>
      rw [bootstrap_start]
      exact hbegins _ rfl rfl
  | @step past s action haction hpast ih =>
    have hreach := hpast.reachable
    have hdrawn := hreach.sound.pictured_of_deed hreach.paced ih (hreach.sound.deed haction)
    have hturns : (fun p => turns p (past ++ [⟨s, action⟩])) =
        fun p => turns p past ++ (s.turn? p action).toList := by
      funext p
      unfold turns
      rw [List.filterMap_append]
      congr 1
    rw [hturns]
    exact hdrawn

/-- The gesture that changes the horizon, with a dashboard that is current. -/
theorem Sound.apply_toggleHorizon {s : Session} (hs : s.Sound) {p : Nat} (hp : s.current = some p)
    (hkind : s.kindOf p = some .dashboard) : s.apply (.gesture .toggleHorizon) = s.toggle p := by
  rw [apply_gesture (hs.dashboardScreen hp hkind).toggle]
  simp only [handle, finish, run_nil]

/-- **A change of the horizon asks for nothing**, and leaves the timers, the cookies and the
inventories alone.

**Proof sketch.** The gesture is the change of the horizon, which is a quiet change and asks for
nothing (`Adds.toggle`). Rendering leaves an effect behind and changes no cookie
(`exists_renderDashboard`), and only the horizon of a dashboard is another one. -/
theorem Sound.apply_toggle {s : Session} (hs : s.Sound) {p : Nat} (hp : s.current = some p)
    (hkind : s.kindOf p = some .dashboard) :
    (s.apply (.gesture .toggleHorizon)).requests = s.requests ∧
      (s.apply (.gesture .toggleHorizon)).wire = s.wire ∧
      (s.apply (.gesture .toggleHorizon)).timers = s.timers ∧
      (s.apply (.gesture .toggleHorizon)).callbacks = s.callbacks ∧
      (s.apply (.gesture .toggleHorizon)).jar = s.jar ∧
      ∀ q, ((s.apply (.gesture .toggleHorizon)).dashboardOf q).map Dashboard.snapshot =
        (s.dashboardOf q).map Dashboard.snapshot := by
  obtain ⟨d, hd⟩ := hs.exists_dashboard hkind
  have hquiet := hs.quiet_toggle p
  have hadds := Adds.toggle hs hp hd
  rw [hs.apply_toggleHorizon hp hkind]
  refine ⟨?_, wire_toggle p s, hquiet.timers_eq, hquiet.callbacks_eq, ?_, fun q => ?_⟩
  · rw [hadds.requests_eq, List.append_nil]
  · obtain ⟨trace, hrender⟩ := exists_renderDashboard p
      ((s.log (.horizonToggled (s.otherHorizon d.horizon))).modifyDashboard p
        fun d' => { d' with horizon := some (s.otherHorizon d.horizon) })
    rw [hs.toggle_eq hp hd, hrender]
    rfl
  · rw [hs.dashboardOf_toggle hp hd, Option.map_map]
    congr 1
    funext d'
    by_cases hpq : p = q <;> simp [hpq]

/-- **What the dashboard that is current shows** is made of its last inventory, of the number of
times that its horizon was changed, and of the clock when either happened last, in all states of a
live session, as long as no page was displayed twice. It rendered each of its inventories once, and
again for each change of the horizon from then on. Such a change asks for nothing, and leaves the
timers, the cookies and the inventories alone.

**Proof sketch.** The dashboard that is current is drawn by the turns of the past (`Past.drawn`).
That says how many views were painted, and with which inventory, horizon and moment the last one was
made; by the bands this is one of the two templates (`inventoryView_eq`). The rest is
`Sound.apply_toggle`. -/
theorem Past.pictured {past : List Moment} {s : Session} (h : Past past s) (hnodup : s.shown.Nodup)
    {p : Nat} (hp : s.current = some p) (hkind : s.kindOf p = some .dashboard) :
    (inventories (turns p past) = [] → s.painted p = []) ∧
    (∀ certificates, (inventories (turns p past)).getLast? = some certificates →
      ∃ now horizon, (turns p past).getLast?.map Turn.now = some now ∧
        horizon = horizonAfter s.services.tuning.horizon (toggles (turns p past)) ∧
        (s.renders .certificatePanel).getLast? = (s.painted p).getLast? ∧
        (Expiry.bandsWithin now horizon certificates = [] → (s.painted p).getLast? =
          some (.noCertificates (horizon == .unbounded))) ∧
        (Expiry.bandsWithin now horizon certificates ≠ [] → (s.painted p).getLast? =
          some (.certificates ((Expiry.bandsWithin now horizon certificates).map BandView.ofBand)
            (horizon == .unbounded)))) ∧
    (s.painted p).length = (inventories (turns p past)).length + lateToggles (turns p past) ∧
    (s.apply (.gesture .toggleHorizon)).requests = s.requests ∧
      (s.apply (.gesture .toggleHorizon)).wire = s.wire ∧
      (s.apply (.gesture .toggleHorizon)).timers = s.timers ∧
      (s.apply (.gesture .toggleHorizon)).callbacks = s.callbacks ∧
      (s.apply (.gesture .toggleHorizon)).jar = s.jar ∧
      ∀ q, ((s.apply (.gesture .toggleHorizon)).dashboardOf q).map Dashboard.snapshot =
        (s.dashboardOf q).map Dashboard.snapshot := by
  have hs := h.reachable.sound
  obtain ⟨d, hd⟩ := hs.exists_dashboard hkind
  have hdrawn := h.drawn.current hnodup p d hp hd
  refine ⟨fun hnone => ?_, fun certificates hlast => ?_, hdrawn.count, hs.apply_toggle hp hkind⟩
  · have hcount := hdrawn.count
    rw [lateToggles, (inventories_eq_nil_iff _).mp hnone, hnone] at hcount
    exact List.eq_nil_of_length_eq_zero hcount
  · obtain ⟨now, hnow, hview⟩ := hdrawn.last certificates (hdrawn.snapshot.trans hlast)
    refine ⟨now, _, hnow, rfl, ?_, fun hbands => ?_, fun hbands => ?_⟩
    · obtain ⟨earlier, hearlier⟩ := s.painted_suffix p
      rw [← hearlier, List.getLast?_append, hview]
      rfl
    · rw [hview, (inventoryView_eq _ _ _).1 hbands]
    · rw [hview, (inventoryView_eq _ _ _).2 hbands]

/-- A response with one certificate, which expires after more than a hundred days. -/
def distantCertificate : Api.Response where
  status := 200
  body := "\x7b\"content\":[\x7b\"common_name\":\"far\",\"not_after\":9000000\x7d]\x7d"

/-- The certificate. -/
def distant : Certificate :=
  ⟨"far", 9000000, []⟩

/-- The response is an inventory of this certificate. -/
theorem inventoryOf_distantCertificate :
    Api.inventoryOf (.response distantCertificate) = .ok [distant] := by
  decide +kernel

/-- The header of the certificate when a million seconds have passed. -/
theorem labels_distant :
    (Expiry.bandsWithin 1000000 .unbounded [distant]).map Expiry.Band.label =
      ["13 WEEKS, 1 DAY"] := by
  have hdrain : (Expiry.Cursor.start [distant] 1000000 .unbounded).drain = [distant] := by decide
  rw [Expiry.bandsWithin, hdrain, Expiry.bands, List.dropWhile_nil, Expiry.bands_nil]
  decide

/-- The response comes to a dashboard that has just been opened, since that is current.

**Proof sketch.** The dashboard has asked for the inventory and is current, so the reply is settled
as one (`Sound.apply_reply`). -/
theorem apply_reply_distantCertificate :
    let opened := standardStart.opening .dashboard
    opened.apply (.reply (.response distantCertificate)) =
      ((opened.answered [] (standardServices.client.request .inventory)
        (.response distantCertificate)).log (.refreshed 1)).refreshed 0 [distant] := by
  intro opened
  have hnew : (PageBody.dashboard ⟨none, none, none⟩).IsNew := rfl
  have hopened : standardStart.apply (.present (.dashboard ⟨none, none, none⟩) []) = opened :=
    reachable_standardStart.sound.apply_present hnew
  have hwaiting : opened.wire.waiting =
      [(standardServices.client.request .inventory, .refresh 0)] := rfl
  have hcurrent : (opened.answered [] (standardServices.client.request .inventory)
      (.response distantCertificate)).current = some 0 := rfl
  have hsound : opened.Sound :=
    hopened ▸ (reachable_standardStart.step (.present _ []) ⟨hnew, rfl⟩).sound
  refine (hsound.apply_reply hwaiting _).trans ?_
  simp only [settlement, if_pos hcurrent, inventoryOf_distantCertificate, settleRefresh, finish,
    run_nil]
  rfl

/-- A dashboard with a horizon of ninety days gets this certificate and renders that there is none
to be shown. Eleven days later its horizon is changed, and it renders the certificate under the
header of the days that are left by then.

**Proof sketch.** The past has four moments, and the theorem is applied behind the second and behind
the last of them. The turns of either past are evaluated; the session that they lead to is known
from the reply, and then changes in its clock and its horizon only. -/
theorem pictured_standardStart :
    let opened := standardStart.apply (.present (.dashboard ⟨none, none, none⟩) [])
    let filled := opened.apply (.reply (.response distantCertificate))
    let later := filled.apply (.setClock 1000000)
    let widened := later.apply (.gesture .toggleHorizon)
    (filled.painted 0).length = 1 ∧
      (filled.painted 0).getLast? = some (.noCertificates false) ∧
      (widened.painted 0).length = 2 ∧
      (widened.painted 0).getLast? = some (.certificates
        ((Expiry.bandsWithin 1000000 .unbounded [distant]).map BandView.ofBand) true) ∧
      (Expiry.bandsWithin 1000000 .unbounded [distant]).map Expiry.Band.label =
        ["13 WEEKS, 1 DAY"] := by
  intro opened filled later widened
  have hnew : (PageBody.dashboard ⟨none, none, none⟩).IsNew := rfl
  have hpresent : (Action.present (.dashboard ⟨none, none, none⟩) []).IsOrdinary := ⟨hnew, rfl⟩
  have hopens : Past [⟨standardStart, .present (.dashboard ⟨none, none, none⟩) []⟩] opened :=
    .step _ hpresent (.begin (.blank standardServices 0 ""))
  have hfills : Past [⟨standardStart, .present (.dashboard ⟨none, none, none⟩) []⟩,
      ⟨opened, .reply (.response distantCertificate)⟩] filled :=
    hopens.step (.reply (.response distantCertificate)) trivial
  have hwaits : Past [⟨standardStart, .present (.dashboard ⟨none, none, none⟩) []⟩,
      ⟨opened, .reply (.response distantCertificate)⟩, ⟨filled, .setClock 1000000⟩] later :=
    hfills.step (.setClock 1000000) trivial
  have hwidens : Past [⟨standardStart, .present (.dashboard ⟨none, none, none⟩) []⟩,
      ⟨opened, .reply (.response distantCertificate)⟩, ⟨filled, .setClock 1000000⟩,
      ⟨later, .gesture .toggleHorizon⟩] widened :=
    hwaits.step (.gesture .toggleHorizon) trivial
  have hopened : opened = standardStart.opening .dashboard :=
    reachable_standardStart.sound.apply_present hnew
  have hwaiting : opened.wire.waiting =
      [(standardServices.client.request .inventory, .refresh 0)] := by
    rw [hopened]
    rfl
  have hfilled : filled = (((standardStart.opening .dashboard).answered []
      (standardServices.client.request .inventory) (.response distantCertificate)).log
        (.refreshed 1)).refreshed 0 [distant] := by
    simp only [filled, hopened, apply_reply_distantCertificate]
  have hshown : filled.shown = [0] := by
    rw [hfilled]
    rfl
  have hcurrent : filled.current = some 0 := by
    rw [hfilled]
    rfl
  have hkind : filled.kindOf 0 = some .dashboard := by
    rw [hfilled]
    rfl
  have hservices : filled.services = standardServices := by
    rw [hfilled]
    rfl
  have hnodup : filled.shown.Nodup := by
    rw [hshown]
    decide
  -- The clock and the change of the horizon leave all of this as it is.
  have hlater : later = { filled with now := 1000000 } := run_nil _
  have hs : later.Sound := hwaits.reachable.sound
  have hcurrent' : later.current = some 0 := by
    rw [hlater]
    exact hcurrent
  have hkind' : later.kindOf 0 = some .dashboard := by
    rw [hlater]
    exact hkind
  have hwidened : widened = later.toggle 0 := hs.apply_toggleHorizon hcurrent' hkind'
  have hquiet : Quiet later widened := by
    rw [hwidened]
    exact hs.quiet_toggle 0
  have hnodup' : widened.shown.Nodup := by
    rw [hquiet.shown_eq, hlater]
    exact hnodup
  have hservices' : widened.services = standardServices := by
    rw [hquiet.services_eq, hlater]
    exact hservices
  -- Both pictures, by what turned them and by the clock at the last turn.
  have hnow : opened.now = 0 := by
    rw [hopened]
    rfl
  have hnow' : later.now = 1000000 := by
    rw [hlater]
  have hturns : turns 0 [⟨standardStart, .present (.dashboard ⟨none, none, none⟩) []⟩,
      ⟨opened, .reply (.response distantCertificate)⟩] = [.inventory 0 [distant]] := by
    simp [turns, turn?, hwaiting, inventoryOf_distantCertificate, hnow]
  have hturns' : turns 0 [⟨standardStart, .present (.dashboard ⟨none, none, none⟩) []⟩,
      ⟨opened, .reply (.response distantCertificate)⟩, ⟨filled, .setClock 1000000⟩,
      ⟨later, .gesture .toggleHorizon⟩] = [.inventory 0 [distant], .toggle 1000000] := by
    simp [turns, turn?, hwaiting, inventoryOf_distantCertificate, hnow, hnow',
      (hs.dashboardScreen hcurrent' hkind').toggle]
  obtain ⟨-, hlast, hcount, -⟩ := hfills.pictured hnodup hcurrent hkind
  obtain ⟨-, hlast', hcount', -⟩ :=
    hwidens.pictured hnodup' (hquiet.current_eq.trans hcurrent') (hquiet.kindOf hkind')
  rw [hturns, hservices] at hlast
  rw [hturns', hservices'] at hlast'
  rw [hturns] at hcount
  rw [hturns'] at hcount'
  obtain ⟨now, horizon, hmoment, hhorizon, -, hnone, -⟩ := hlast [distant] rfl
  obtain ⟨now', horizon', hmoment', hhorizon', -, -, hsome⟩ := hlast' [distant] rfl
  obtain rfl : 0 = now := Option.some_inj.mp hmoment
  obtain rfl : 1000000 = now' := Option.some_inj.mp hmoment'
  have hcollapsed : horizon = standardServices.tuning.horizon := hhorizon
  have hunbounded : horizon' = .unbounded := hhorizon'
  subst hcollapsed hunbounded
  have hbands : Expiry.bandsWithin 0 standardServices.tuning.horizon [distant] = [] :=
    Expiry.bands_nil 0
  have hne : Expiry.bandsWithin 1000000 .unbounded [distant] ≠ [] := by
    intro hnil
    have hlabels := labels_distant
    rw [hnil] at hlabels
    exact absurd hlabels (by simp)
  exact ⟨hcount, hnone hbands, hcount', hsome hne, labels_distant⟩

end Session

end CertDashboard
