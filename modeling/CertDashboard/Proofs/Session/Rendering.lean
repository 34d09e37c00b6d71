import CertDashboard.Proofs.Contract.Views
import CertDashboard.Proofs.Session.Causes
import CertDashboard.Proofs.Session.Inventory

set_option autoImplicit false
set_option relaxedAutoImplicit false

/-!
# Whatever is rendered keeps its schema

An inventory can always be shown. A form cannot if its message is empty, but the program never makes
such a form; as long as none is opened from outside either, the parameters of all that is rendered
keep the schemas of their templates.

## Main definitions

* `CertDashboard.Session.Action.IsTidy` — the actions that open no form with an empty message.
* `CertDashboard.Session.Tidy` — the states that such actions lead to.
* `CertDashboard.Session.Proper` — all that was rendered can be, where it was.

## Main results

* `CertDashboard.Session.isProper_of_cause` — what is rendered with a cause can be.
* `CertDashboard.Session.Proper.run`, `CertDashboard.Session.Proper.apply` — so can all that is
  rendered by tasks, and by an action.
* `CertDashboard.Session.Tidy.renders_keepSchema` — whatever is rendered keeps its schema.

## Design

Replies may be there before their request, pages may be torn down and initialized by hand, and the
session may end: none of this matters here, and so it is not left out.
-/

namespace CertDashboard

namespace Session

/-- **An action that opens no form with an empty message.** A page that it makes plans to display no
others; a form with an empty message may be made, but only to be kept. -/
structure Action.IsTidy (s : Session) (action : Action) : Prop where
  /-- A page that is made plans nothing. -/
  plans : ∀ body plans, action.made? = some (body, plans) → plans = []
  /-- A page that is made and displayed is no such form. -/
  presented : ∀ plans, action ≠ .present (.login (some "")) plans
  /-- Neither is a page that is kept, and displayed or initialized now. -/
  opened : ∀ p ∈ action.opened? s, ¬ s.IsForm p (some "")

/-- **The states of a session in which no form with an empty message is opened from outside.** -/
inductive Tidy : Session → Prop where
  /-- It begins with no page. -/
  | blank (services : Services) (now : Int64) (cookies : String) (script : List Api.Reply) :
    Tidy (start services now cookies script)
  /-- It begins with the question how users prove who they are. -/
  | asking (services : Services) (now : Int64) (cookies : String) (script : List Api.Reply) :
    Tidy (start services now cookies script).bootstrap
  /-- The state behind one more action. -/
  | step {s : Session} (action : Action) : action.IsTidy s → Tidy s → Tidy (s.apply action)

/-- **All that was rendered can be, where it was**, and nothing is planned. -/
structure Proper (s : Session) : Prop where
  /-- Nothing is planned. -/
  plans : s.plans = []
  /-- Each view is proper, and stands in its own region. -/
  renders : ∀ surface view, .render surface view ∈ s.trace →
    surface = view.surface ∧ view.IsProper

/-- **What is rendered with a cause can be**, unless a form with an empty message is opened. -/
theorem isProper_of_cause {s : Session} {opened : List Nat} {surface : Surface} {view : View}
    (h : s.Cause opened surface view) (hopened : ∀ p ∈ opened, ¬ s.IsForm p (some "")) :
    surface = view.surface ∧ view.IsProper := by
  cases h with
  | form hp hform =>
    refine ⟨rfl, ?_⟩
    rintro rfl
    exact hopened _ hp hform
  | inventory now horizon certificates =>
    obtain ⟨hproper, hsurface⟩ := View.isProper_bands now
      (Expiry.Cursor.start certificates now horizon).drain (horizon == .unbounded)
    exact ⟨hsurface.symm, hproper⟩

namespace Proper

variable {s t : Session} {warnings : List Log.Event} {opened : List Nat}

/-- What is rendered by a change can be, too. -/
theorem yields (hs : s.Proper) (h : Yields warnings opened s t)
    (hopened : ∀ p ∈ opened, ¬ s.IsForm p (some "")) : t.Proper where
  plans := List.subset_nil.mp (hs.plans ▸ h.plans)
  renders surface view hrender := by
    obtain ⟨es, htrace, -, hes⟩ := h.trace
    rw [htrace] at hrender
    rcases List.mem_append.mp hrender with hbefore | hnow
    · exact hs.renders surface view hbefore
    · exact isProper_of_cause (hes surface view hnow) fun p hp hform =>
        hopened p hp (h.blank p hform)

/-- **So can what is rendered by tasks**, if no form with an empty message is due to be
displayed. -/
theorem run (hs : s.Proper) {tasks : List Task}
    (hdue : ∀ p, .display p ∈ tasks → ¬ s.IsForm p (some "")) : (s.run tasks).Proper := by
  obtain ⟨opened, hyields, hopened⟩ := exists_yields_run tasks s
  refine hs.yields hyields fun p hp => ?_
  rcases hopened p hp with hdisplay | ⟨plan, hplan, -⟩ | hother
  · exact hdue p hdisplay
  · exact absurd hplan (by simp [hs.plans])
  · exact hother

/-- **So can what is rendered by an action** that opens no such form.

**Proof sketch.** A form with an empty message is rendered by nothing as long as it is only kept, so
that case stands alone. Every other action makes only pages whose views are proper (`yields_begin`).
The tasks that are due then display those pages or older ones (`Proper.yields`), and running them
keeps what is rendered proper (`Proper.run`). -/
theorem apply (hs : s.Proper) {action : Action} (h : action.IsTidy s) :
    (s.apply action).Proper := by
  by_cases hkept : ∃ plans, action = .keep (.login (some "")) plans
  · -- A form that is only kept is rendered by nothing.
    obtain ⟨plans, rfl⟩ := hkept
    obtain rfl : plans = [] := h.plans _ _ rfl
    have happly : (s.apply (.keep (.login (some "")) [])).plans = s.plans ++ [] ∧
        (s.apply (.keep (.login (some "")) [])).trace = s.trace := by
      simp [Session.apply, begin, make, addPage]
    exact ⟨by rw [happly.1, hs.plans]; rfl, happly.2 ▸ hs.renders⟩
  · have hmade : ∀ body plans, action.made? = some (body, plans) →
        body ≠ .login (some "") ∧ plans = [] := by
      refine fun body plans heq => ⟨?_, h.plans body plans heq⟩
      rintro rfl
      cases action with
      | keep body' plans' =>
        cases heq
        exact hkept ⟨plans, rfl⟩
      | present body' plans' =>
        cases heq
        exact h.presented plans rfl
      | _ => cases heq
    obtain ⟨hyields, hdue⟩ := yields_begin action s hmade
    refine (hs.yields hyields fun p hp => h.opened p (Option.mem_toList.mp hp)).run fun p hp => ?_
    rcases hdue p hp with hopened | ⟨plan, hplan, -⟩ | hother
    · exact fun hform => h.opened p hopened (hyields.blank p hform)
    · exact absurd hplan (by simp [hs.plans])
    · exact fun hform => hother (hyields.blank p hform)

end Proper

/-- **All that was rendered can be**, in every such state. -/
theorem Tidy.proper {s : Session} (h : s.Tidy) : s.Proper := by
  have hstart : ∀ services now cookies script, (start services now cookies script).Proper :=
    fun _ _ _ _ => ⟨rfl, nofun⟩
  induction h with
  | blank services now cookies script => exact hstart services now cookies script
  | asking services now cookies script =>
    have hlogged := (hstart services now cookies script).yields (.log (.started version) nofun _)
      nofun
    exact hlogged.run (by simp)
  | step action haction _ ih => exact ih.apply haction

/-- An inventory that comes to the current page is rendered.

**Proof sketch.** The reply goes to the current page (`apply_reply`) and is an inventory, so that
the session is the one behind a refresh, whose trace is known (`trace_refreshed`). -/
theorem Sound.render_mem_trace {s : Session} (hs : s.Sound) {p : Nat} (hp : s.current = some p)
    {request : Api.Request} {rest : List (Api.Request × Purpose)}
    (hwaiting : s.wire.waiting = (request, .refresh p) :: rest) {d : Dashboard}
    (hd : s.dashboardOf p = some d) {reply : Api.Reply} {certificates : List Certificate}
    (hinventory : Api.inventoryOf reply = .ok certificates) :
    .render .certificatePanel
        (inventoryView s.now (d.horizon.getD s.services.tuning.horizon) certificates) ∈
      (s.apply (.reply reply)).trace := by
  let t := (s.answered rest request reply).log (.refreshed certificates.length)
  have hcurrent : (s.answered rest request reply).current = some p := hp
  have hreply : s.apply (.reply reply) = t.refreshed p certificates := by
    rw [hs.apply_reply hwaiting reply]
    simp only [settlement, hcurrent, if_true, hinventory, settleRefresh, finish, run_nil]
    rfl
  have hdashboard : t.dashboardOf p = some d := hd
  rw [hreply, trace_refreshed hdashboard]
  exact List.mem_append_left _ (List.mem_append_right _ List.mem_cons_self)

/-- **Whatever is rendered keeps its schema.** The parameters of each view are JSON and break no
rule of the schema of its template; forms go to the region of the form, and all else to the region
of the certificates. A list of certificates has a band, and each band of it a certificate, a header
and a color, whatever the inventory, the horizon and the moment are.

**Proof sketch.** Whatever a tidy session rendered is proper (`Tidy.proper`), and proper views keep
their schemas (`View.keepsSchema_iff`). The region is part of that, and the template follows from
the kind of view. The bands of an inventory are proper at any moment (`View.isProper_bands`). -/
theorem Tidy.renders_keepSchema {s : Session} (h : s.Tidy) :
    (∀ surface view, .render surface view ∈ s.trace →
      view.KeepsSchema ∧
        (surface = .loginPanel ∧ view.template = "login-page" ∨
          surface = .certificatePanel ∧
            (view.template = "cert-list-group" ∨ view.template = "no-certs-page"))) ∧
    ∀ now horizon certificates bands showAll,
      inventoryView now horizon certificates = .certificates bands showAll →
        bands ≠ [] ∧ ∀ b ∈ bands,
          b.certificates ≠ [] ∧ b.header ≠ "" ∧ Contract.isColor b.color = true := by
  refine ⟨fun surface view hrender => ?_, fun now horizon certificates bands showAll hview => ?_⟩
  · obtain ⟨rfl, hproper⟩ := h.proper.renders surface view hrender
    refine ⟨view.keepsSchema_iff.mpr hproper, ?_⟩
    cases view with
    | login message => exact .inl ⟨rfl, rfl⟩
    | certificates bands showAll => exact .inr ⟨rfl, .inl rfl⟩
    | noCertificates showAll => exact .inr ⟨rfl, .inr rfl⟩
  · have hproper : (inventoryView now horizon certificates).IsProper :=
      (View.isProper_bands now _ _).1
    rw [hview] at hproper
    exact ⟨hproper.1, fun b hb =>
      ⟨(hproper.2 b hb).certificates, (hproper.2 b hb).header, (hproper.2 b hb).color⟩⟩

/-- A dashboard with a horizon of ninety days that gets a certificate for five seconds: the list of
it keeps its schema.

**Proof sketch.** The run is tidy step by step. The text of the body is that of a JSON object, whose
certificate is read by `Api.inventoryOfText_object`, so that the list is rendered
(`Sound.render_mem_trace`), and the theorem is applied to it. -/
theorem renders_keepSchema_standardStart :
    let opened := standardStart.apply (.present (.dashboard ⟨none, none, none⟩) [])
    let body := "\x7b\"content\":[\x7b\"common_name\":\"a\",\"not_after\":5\x7d]\x7d"
    let filled := opened.apply (.reply (.response ⟨200, body⟩))
    let view := inventoryView 0 standardServices.tuning.horizon [⟨"a", 5, []⟩]
    filled.Tidy ∧ .render .certificatePanel view ∈ filled.trace ∧ view.KeepsSchema ∧
      ∃ band showAll, view = .certificates [band] showAll ∧ band.certificates = [⟨"a", 5, []⟩] ∧
        band.header = "NOW" ∧ Contract.isColor band.color = true := by
  intro opened body filled view
  have hfilled : filled.Tidy :=
    .step _ ⟨nofun, nofun, nofun⟩ (.step _ ⟨by simp [Action.made?], nofun, nofun⟩ (.blank _ _ _ _))
  have hordinary : (Action.present (.dashboard ⟨none, none, none⟩) []).IsOrdinary := ⟨rfl, rfl⟩
  have hsound : opened.Sound := (reachable_standardStart.step _ hordinary).sound
  have hopened : opened = standardStart.opening .dashboard :=
    reachable_standardStart.sound.apply_present rfl
  have htext : body = (Json.object [("content", .array [
      .object [("common_name", .string "a"), ("not_after", .ofInt 5)]])]).text := by
    decide +kernel
  have hbody : Api.inventoryOfText body = .ok [⟨"a", 5, []⟩] := by
    rw [htext, Api.inventoryOfText_object]
    exact .inr ⟨_, rfl, .cons (Certificate.decoder_eq_ok_iff.mpr
      ⟨rfl, ⟨_, rfl, Json.Number.spells_ofInt 5⟩, .inl ⟨rfl, rfl⟩⟩) .nil⟩
  have hinventory : Api.inventoryOf (.response ⟨200, body⟩) = .ok [⟨"a", 5, []⟩] := by
    simp [Api.inventoryOf, Api.Reply.body, Api.isSuccess, Except.bind, hbody, Api.decoded,
      Api.collapse]
  have hrender : .render .certificatePanel view ∈ filled.trace := by
    have hwaiting : opened.wire.waiting =
        [(standardServices.client.request .inventory, .refresh 0)] := by
      rw [hopened]
      rfl
    have hdashboard : opened.dashboardOf 0 =
        some ⟨some standardServices.tuning.horizon, none, none⟩ := by
      rw [hopened]
      rfl
    have hcurrent : opened.current = some 0 := by
      rw [hopened]
      rfl
    have hrendered := hsound.render_mem_trace hcurrent hwaiting hdashboard hinventory
    have hnow : opened.now = 0 := by
      rw [hopened]
      rfl
    rwa [hnow] at hrendered
  obtain ⟨hrenders, hbands⟩ := hfilled.renders_keepSchema
  have hdrain : (Expiry.Cursor.start [⟨"a", 5, []⟩] 0 standardServices.tuning.horizon).drain =
      [⟨"a", 5, []⟩] := by decide
  have hview : view = .certificates [.ofBand { Expiry.Band.opened 0 ⟨"a", 5, []⟩ with
      certificates := [⟨"a", 5, []⟩] }] false := by
    simp only [view, inventoryView, Expiry.bandsWithin, hdrain, Expiry.bands, List.dropWhile_nil]
    rfl
  have hcolor := ((hbands _ _ _ _ _ hview).2 _ List.mem_cons_self).2.2
  exact ⟨hfilled, hrender, (hrenders _ _ hrender).1, _, _, hview, rfl, rfl, hcolor⟩

end Session

end CertDashboard
