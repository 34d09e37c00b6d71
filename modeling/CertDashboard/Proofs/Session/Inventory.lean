import CertDashboard.Proofs.Api.Acceptance
import CertDashboard.Proofs.Expiry.Bands
import CertDashboard.Proofs.Session.Dashboards
import CertDashboard.Proofs.View

set_option autoImplicit false
set_option relaxedAutoImplicit false

/-!
# From the wire to the template

An inventory goes a long way: it is decoded, cut off at the horizon, cut into bands, made a view of,
and written as the parameters of a template. Whoever reads those finds the certificates within the
horizon, every one of them and no other, as they came.

## Main results

* `CertDashboard.Session.inventoryView_eq_noCertificates_iff`,
  `CertDashboard.Session.listed?_inventoryView` — the view of an inventory in the order of expiry.
* `CertDashboard.Session.finish_settle_inventory` — the session behind an inventory that comes to a
  page that answers.
* `CertDashboard.Session.renders_inventory` — what such an inventory renders.

## Design

Nothing is assumed of the session but that the page answers, so that its clock and its horizon are
any. In a live session the page that answers is the current one.
-/

namespace CertDashboard

namespace Session

/-! ## The view of an inventory -/

/-- The bands of an inventory in the order of expiry hold the certificates within the horizon. -/
theorem flatMap_bandsWithin {certificates : List Certificate} (h : Ascending certificates)
    (now : Int64) (horizon : Horizon) :
    (Expiry.bandsWithin now horizon certificates).flatMap Expiry.Band.certificates =
      certificates.filter (horizon.covers now) := by
  unfold Expiry.bandsWithin
  rw [Expiry.flatMap_bands, Expiry.drain_start h]

/-- There are no bands if and only if no certificate is within the horizon. -/
theorem bandsWithin_eq_nil_iff {certificates : List Certificate} (h : Ascending certificates)
    (now : Int64) (horizon : Horizon) : Expiry.bandsWithin now horizon certificates = [] ↔
      ∀ c ∈ certificates, horizon.admits (Expiry.secondsRemaining c.notAfter now) = false := by
  have hfilter : certificates.filter (horizon.covers now) = [] ↔
      ∀ c ∈ certificates, horizon.admits (Expiry.secondsRemaining c.notAfter now) = false := by
    simp [List.filter_eq_nil_iff, Horizon.covers]
  rw [← hfilter]
  constructor
  · intro hnone
    rw [← flatMap_bandsWithin h, hnone, List.flatMap_nil]
  · intro hnone
    unfold Expiry.bandsWithin
    rw [Expiry.drain_start h, hnone, Expiry.bands_nil]

/-- The view of an inventory says that there are no certificates if and only if none of them is
within the horizon. -/
theorem inventoryView_eq_noCertificates_iff {certificates : List Certificate}
    (h : Ascending certificates) (now : Int64) (horizon : Horizon) :
    (∃ showAll, inventoryView now horizon certificates = .noCertificates showAll) ↔
      ∀ c ∈ certificates, horizon.admits (Expiry.secondsRemaining c.notAfter now) = false := by
  obtain ⟨hnone, hsome⟩ := inventoryView_eq now horizon certificates
  rw [← bandsWithin_eq_nil_iff h]
  by_cases hbands : Expiry.bandsWithin now horizon certificates = []
  · simp [hnone hbands, hbands]
  · simp [hsome hbands, hbands]

/-- **What is read of the view of an inventory** are the certificates within the horizon, if there
are any. -/
theorem listed?_inventoryView {certificates : List Certificate} (h : Ascending certificates)
    {now : Int64} {horizon : Horizon}
    (hsome : ∃ c ∈ certificates, horizon.admits (Expiry.secondsRemaining c.notAfter now) = true) :
    View.listed? (inventoryView now horizon certificates).params =
      some (certificates.filter (horizon.covers now)) := by
  have hbands : Expiry.bandsWithin now horizon certificates ≠ [] := by
    intro hnone
    obtain ⟨c, hc, hadmits⟩ := hsome
    have hrefused := (bandsWithin_eq_nil_iff h now horizon).mp hnone c hc
    exact absurd (hadmits.symm.trans hrefused) (by simp)
  rw [(inventoryView_eq now horizon certificates).2 hbands, View.listed?_certificates,
    List.flatMap_map, ← flatMap_bandsWithin h]
  rfl

/-! ## An inventory that comes -/

/-- **The session behind an inventory** that comes to a page that answers.

**Proof sketch.** A response that reports success and has an inventory is logged as no failure, and
is read as that inventory. The page answers, so that it is settled as a refresh, and nothing is left
to do. -/
theorem finish_settle_inventory {s : Session} {p : Nat} (hactive : (s.active? p).isSome = true)
    {response : Api.Response} (hsuccess : Api.isSuccess response.status = true)
    {certificates : List Certificate}
    (hbody : Api.inventoryOfText response.body = .ok certificates) (request : Api.Request) :
    finish (s.settle (.refresh p) request (.response response)) =
      (s.log (.refreshed certificates.length)).refreshed p certificates := by
  have hreply : (Api.Reply.response response).body = .ok response.body := if_pos hsuccess
  have hevents : request.replyEvents (.response response) = [] := by
    simp only [Api.Request.replyEvents, hreply]
  have hinventory : Api.inventoryOf (.response response) = .ok certificates := by
    unfold Api.inventoryOf
    rw [hreply]
    simp only [Except.bind, hbody, Api.decoded, Api.collapse]
  unfold settle
  simp only [hevents, List.foldl_nil, hactive, if_true, hinventory, settleRefresh, finish, run_nil]
  rfl

/-- The effects of an inventory that comes to a dashboard: it is rendered, and the timer of the last
refresh is cancelled if it is still due.

**Proof sketch.** The change is rendering and setting the timer. The dashboard has the new
inventory when it is rendered, and the timer of before, which is cancelled if there is one
(`cancelTimer_eq`). -/
theorem trace_refreshed {s : Session} {p : Nat} {d : Dashboard} (hd : s.dashboardOf p = some d)
    (certificates : List Certificate) : (s.refreshed p certificates).trace = s.trace ++
      [.render .certificatePanel
          (inventoryView s.now (d.horizon.getD s.services.tuning.horizon) certificates),
        .visible .certificatePanel true] ++ d.timer.toList.map .cancelled := by
  have hchanged : (s.modifyDashboard p fun d => { d with snapshot := some certificates
      }).dashboardOf p = some { d with snapshot := some certificates } :=
    dashboardOf_modifyDashboard_self hd _
  have hrendered := hchanged
  rw [← dashboardOf_renderDashboard p p] at hrendered
  unfold dashboardOf at hchanged hrendered
  have htimer : ((s.modifyDashboard p fun d => { d with snapshot := some certificates
      }).renderDashboard p).timerOf p = d.timer := by
    have hbind := congrArg (fun d' : Option Dashboard => d'.bind Dashboard.timer) hrendered
    rwa [Option.bind_assoc] at hbind
  have hcancel : (s.refreshed p certificates).trace =
      (((s.modifyDashboard p fun d => { d with snapshot := some certificates
        }).renderDashboard p).cancelTimer p).trace := rfl
  rw [hcancel, cancelTimer_eq, htimer]
  unfold renderDashboard
  simp only [hchanged, emit, List.append_assoc]
  rfl

/-- **No certificate is lost between the wire and the template.** When the reply to a request of a
page that answers has an inventory in the order of expiry, one view is rendered. It says that there
are no certificates if and only if the horizon admits none of them at that moment. Otherwise its
parameters list the ones that the horizon admits: these, as they came, in that order, each as often
as it came, and no others.

**Proof sketch.** The reply takes its request off the wire and is then settled as an inventory
(`finish_settle_inventory`). Behind it the trace has one more render, the view of the inventory
(`trace_refreshed`). What that view says is a matter of bands: `inventoryView_eq_noCertificates_iff`
and `listed?_inventoryView`. -/
theorem renders_inventory {s : Session} {request : Api.Request} {p : Nat} {d : Dashboard}
    (hwaiting : s.wire.waiting.head? = some (request, .refresh p))
    (hactive : (s.active? p).bind Page.dashboard? = some d) {response : Api.Response}
    (hsuccess : Api.isSuccess response.status = true) {certificates : List Certificate}
    (hbody : Api.inventoryOfText response.body = .ok certificates)
    (hsorted : Ascending certificates) :
    let t := s.apply (.reply (.response response))
    let horizon := d.horizon.getD s.services.tuning.horizon
    ∃ view, t.renders .certificatePanel = s.renders .certificatePanel ++ [view] ∧
      t.renderCount = s.renderCount + 1 ∧
      ((∃ showAll, view = .noCertificates showAll) ↔
        ∀ c ∈ certificates,
          horizon.admits (Expiry.secondsRemaining c.notAfter s.now) = false) ∧
      ((∃ c ∈ certificates, horizon.admits (Expiry.secondsRemaining c.notAfter s.now) = true) →
        View.listed? view.params = some (certificates.filter fun c =>
          horizon.admits (Expiry.secondsRemaining c.notAfter s.now))) := by
  intro t horizon
  obtain ⟨rest, hrest⟩ := List.head?_eq_some_iff.mp hwaiting
  obtain ⟨page, hpage, hdashboard⟩ := Option.bind_eq_some_iff.mp hactive
  have hpop : s.wire.pop? = some ((request, .refresh p), { s.wire with waiting := rest }) := by
    simp [Api.Wire.pop?, hrest]
  -- The request waits no longer; all that the reply depends on is as it was.
  let u : Session := { s with wire := { s.wire with waiting := rest } }
  have hreply : t = (u.log (.refreshed certificates.length)).refreshed p certificates := by
    have hanswers : (u.active? p).isSome = true := Option.isSome_iff_exists.mpr ⟨page, hpage⟩
    rw [← finish_settle_inventory hanswers hsuccess hbody request]
    simp only [t, apply, begin, hpop, run_cons, perform, List.append_nil]
    rfl
  have hd : (u.log (.refreshed certificates.length)).dashboardOf p = some d := by
    unfold active? at hpage
    split at hpage
    · have hfound := (Option.filter_eq_some_iff.mp hpage).1
      exact Option.bind_eq_some_iff.mpr ⟨page, hfound, hdashboard⟩
    · exact absurd hpage (by simp)
  have htrace : t.trace = s.trace ++ ([.log (.refreshed certificates.length),
      .render .certificatePanel (inventoryView s.now horizon certificates),
      .visible .certificatePanel true] ++ d.timer.toList.map .cancelled) := by
    rw [hreply, trace_refreshed hd]
    simp only [log, emit, List.append_assoc]
    rfl
  refine ⟨inventoryView s.now horizon certificates, ?_, ?_,
    inventoryView_eq_noCertificates_iff hsorted _ _, listed?_inventoryView hsorted⟩
  · unfold renders
    rw [htrace, List.filterMap_append]
    cases d.timer <;> simp
  · unfold renderCount
    rw [htrace, List.countP_append]
    cases d.timer <;> simp

/-- A response with two certificates: one that expires at once and has a storage path, and one that
expires after more than a hundred days and has none. -/
def twoCertificates : Api.Response where
  status := 200
  body := "\x7b\"content\":[\x7b\"common_name\":\"a\",\"not_after\":5,\"paths\":[" ++
    "\x7b\"backend\":\"v\",\"location\":\"s/a\"\x7d]\x7d," ++
    "\x7b\"common_name\":\"b\",\"not_after\":9000000\x7d]\x7d"

/-- A dashboard with a horizon of ninety days that gets these two certificates: the template reads
the first one.

**Proof sketch.** The session with an opened dashboard is computed, and the body is the text of two
certificates (`Api.inventoryOfText_object`). The theorem is applied to the reply; the horizon admits
the first certificate by evaluation. -/
theorem renders_inventory_standardStart :
    let opened := standardStart.apply (.present (.dashboard ⟨none, none, none⟩) [])
    let filled := opened.apply (.reply (.response twoCertificates))
    ∃ view, filled.renders .certificatePanel = [view] ∧
      (¬ ∃ showAll, view = .noCertificates showAll) ∧
      View.listed? view.params = some [⟨"a", 5, [⟨"v", "s/a"⟩]⟩] := by
  intro opened filled
  have hnew : (PageBody.dashboard ⟨none, none, none⟩).IsNew := rfl
  have hopened : opened = standardStart.opening .dashboard :=
    reachable_standardStart.sound.apply_present hnew
  have hwaiting : opened.wire.waiting.head? =
      some (standardServices.client.request .inventory, .refresh 0) := by
    rw [hopened]
    rfl
  have hactive : (opened.active? 0).bind Page.dashboard? =
      some ⟨some standardServices.tuning.horizon, none, none⟩ := by
    rw [hopened]
    rfl
  have hnow : opened.now = 0 := by
    rw [hopened]
    rfl
  have hnone : opened.renders .certificatePanel = [] := by
    rw [hopened]
    rfl
  have htext : twoCertificates.body = (Json.object [("content", .array [
      .object [("common_name", .string "a"), ("not_after", .ofInt 5),
        ("paths", .array [.object [("backend", .string "v"), ("location", .string "s/a")]])],
      .object [("common_name", .string "b"), ("not_after", .ofInt 9000000)]])]).text := by
    decide +kernel
  have hbody : Api.inventoryOfText twoCertificates.body =
      .ok [⟨"a", 5, [⟨"v", "s/a"⟩]⟩, ⟨"b", 9000000, []⟩] := by
    rw [htext, Api.inventoryOfText_object]
    refine .inr ⟨_, rfl, .cons (Certificate.decoder_eq_ok_iff.mpr ?_)
      (.cons (Certificate.decoder_eq_ok_iff.mpr ?_) .nil)⟩
    · exact ⟨rfl, ⟨_, rfl, Json.Number.spells_ofInt 5⟩,
        .inr ⟨_, rfl, .cons (.object rfl rfl) .nil⟩⟩
    · exact ⟨rfl, ⟨_, rfl, Json.Number.spells_ofInt 9000000⟩, .inl ⟨rfl, rfl⟩⟩
  have hsorted : Ascending [⟨"a", 5, [⟨"v", "s/a"⟩]⟩, ⟨"b", 9000000, []⟩] := by simp [Ascending]
  have hsuccess : Api.isSuccess twoCertificates.status = true := by decide
  obtain ⟨view, hrenders, -, hempty, hlisted⟩ :=
    renders_inventory hwaiting hactive hsuccess hbody hsorted
  simp only [Option.getD_some, hnow] at hempty hlisted
  have hadmitted : standardServices.tuning.horizon.admits (Expiry.secondsRemaining 5 0) = true := by
    decide
  refine ⟨view, ?_, ?_, ?_⟩
  · rw [hrenders, hnone, List.nil_append]
  · rw [hempty]
    intro hall
    have hrefused := hall ⟨"a", 5, [⟨"v", "s/a"⟩]⟩ List.mem_cons_self
    exact absurd (hadmitted.symm.trans hrefused) (by simp)
  · rw [hlisted ⟨⟨"a", 5, [⟨"v", "s/a"⟩]⟩, List.mem_cons_self, hadmitted⟩]
    decide

end Session

end CertDashboard
