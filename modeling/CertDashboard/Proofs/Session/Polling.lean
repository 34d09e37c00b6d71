import CertDashboard.Proofs.Session.Outcome

set_option autoImplicit false
set_option relaxedAutoImplicit false

/-!
# The pace of refreshes

A dashboard that is current asks for the inventory again and again: behind each answer a timer is
set, and when that is up the next request is sent. So it waits for a reply or for a timer, and never
for both or for two of one sort. That only holds as long as no page comes to the screen twice: one
that does asks at once, whether its last request was answered or not.

## Main definitions

* `CertDashboard.Session.Paced` — the invariant of the pace.

## Main results

* `CertDashboard.Session.Sound.paced_of_outcome` — what an ordinary action comes to keeps the pace.
* `CertDashboard.Session.Reachable.awaits_reply_or_timer` — what is due, in all states of a live
  session.
-/

namespace CertDashboard

namespace Session

/-! ## Requests for the inventory -/

/-- There are no more requests for the inventory behind a quiet change. -/
theorem Quiet.polls_le {s t : Session} (h : Quiet s t) (p : Nat) : t.polls p ≤ s.polls p :=
  h.waiting.sublist.countP_le

/-- The requests for the inventory behind the display of a page. -/
theorem polls_showing (p q : Nat) (page : Page) (s : Session) :
    (s.showing p page).polls q =
      s.polls q + if page.kind = .dashboard ∧ p = q then 1 else 0 := by
  unfold polls
  rw [waiting_showing, List.countP_append]
  cases page.kind <;> simp

/-- The requests for the inventory behind one request more. -/
theorem polls_asking (purpose : Purpose) (call : Api.Call) (p : Nat) (s : Session) :
    (s.asking purpose call).polls p = s.polls p + if purpose = .refresh p then 1 else 0 := by
  unfold polls
  simp [asking, Api.Wire.park, List.countP_append]

/-- In a sound state the requests of a page for the inventory are those that are for its refresh.

**Proof sketch.** Request by request. The invariant on what waits says which call the request of a
purpose is, and only a refresh is a request for the inventory. -/
theorem Sound.inFlight_inventory {s : Session} (hs : s.Sound) (p : Nat) :
    s.inFlight .inventory p = s.polls p := by
  unfold inFlight polls
  refine List.countP_congr fun e he => ?_
  have hfits := hs.waiting e he
  obtain ⟨request, purpose⟩ := e
  simp only [decide_eq_true_eq]
  cases purpose with
  | firstPage => simp [Purpose.page?]
  | refresh q =>
    obtain ⟨-, rfl⟩ := hfits
    simp [Purpose.page?]
  | login q =>
    obtain ⟨-, credentials, rfl⟩ := hfits
    simp [Api.Client.request]

/-! ## The pace -/

/-- **The invariant of the pace.** -/
structure Paced (s : Session) : Prop where
  /-- A page that was never displayed has not asked. -/
  unseen : ∀ p, p ∉ s.shown → s.polls p = 0
  /-- As long as no page was displayed twice, the dashboard that is current waits for one thing. -/
  one : s.shown.Nodup → ∀ p, s.current = some p → s.kindOf p = some .dashboard →
    s.polls p + s.timers.length = 1

/-- Behind a quiet change, a page that was never displayed has still not asked. -/
theorem Paced.unseen_quiet {s t : Session} (hpaced : s.Paced) (h : Quiet s t) {p : Nat}
    (hp : p ∉ s.shown) : t.polls p = 0 := by
  have hle := h.polls_le p
  have hnone := hpaced.unseen p hp
  omega

/-- Submitting a login form keeps the pace. -/
theorem Paced.asking_login {s : Session} (hpaced : s.Paced) (p : Nat) (call : Api.Call) :
    (s.asking (.login p) call).Paced := by
  have hpolls : ∀ q, (s.asking (.login p) call).polls q = s.polls q := by
    intro q
    rw [polls_asking, if_neg (by simp), Nat.add_zero]
  refine ⟨fun q hq => ?_, fun hnodup q hq hkind => ?_⟩
  · rw [shown_asking] at hq
    rw [hpolls]
    exact hpaced.unseen q hq
  · rw [shown_asking] at hnodup
    rw [hpolls]
    exact hpaced.one hnodup q hq hkind

/-- The inventory for the current dashboard, and the timer set behind it, keep the pace: the request
that waited is gone.

**Proof sketch.** The request that is answered was the only one for the page, since that is current.
So none waits for it any more, and the timer takes its place; for pages that were never displayed
nothing waited before either. -/
theorem Paced.refreshed {s t : Session} (hpaced : s.Paced) (h : Quiet s t) {p : Nat}
    (hp : s.current = some p) (hkind : s.kindOf p = some .dashboard) {request : Api.Request}
    (hwaiting : s.wire.waiting = (request, .refresh p) :: t.wire.waiting) (n : Nat)
    (callbacks : List Callback) : (t.withTimer p (some n) callbacks).Paced := by
  have hpolls : s.polls p = t.polls p + 1 := by
    unfold polls
    rw [hwaiting]
    simp
  refine ⟨fun q hq => ?_, fun hnodup q hq _ => ?_⟩
  · have hq : q ∉ t.shown := hq
    rw [h.shown_eq] at hq
    have hnone : t.polls q = 0 := hpaced.unseen_quiet h hq
    exact hnone
  · have hq : t.current = some q := hq
    have hnodup : t.shown.Nodup := hnodup
    rw [h.current_eq] at hq
    rw [h.shown_eq] at hnodup
    obtain rfl : p = q := Option.some_inj.mp (hp.symm.trans hq)
    have hone := hpaced.one hnodup p hp hkind
    have hnone : t.polls p = 0 := by omega
    show t.polls p + 1 = 1
    omega

namespace Sound

variable {s t : Session}

/-- A quiet change keeps the pace, unless a request of the current page is gone. -/
theorem paced_quiet (hs : s.Sound) (hpaced : s.Paced) (h : Quiet s t)
    (hpolls : ∀ p, s.current = some p → t.polls p = s.polls p) : t.Paced := by
  refine ⟨fun p hp => ?_, fun hnodup p hp hkind => ?_⟩
  · rw [h.shown_eq] at hp
    exact hpaced.unseen_quiet h hp
  · rw [h.current_eq] at hp
    rw [hs.kindOf_quiet h hp] at hkind
    rw [h.shown_eq] at hnodup
    rw [hpolls p hp, h.timers_eq]
    exact hpaced.one hnodup p hp hkind

/-- Displaying a page sets the pace, if pages that were never displayed have not asked. -/
theorem paced_showing (hs : s.Sound) (hunseen : ∀ p, p ∉ s.shown → s.polls p = 0) {p : Nat}
    {page : Page} (hpage : s.pages[p]? = some page) : (s.showing p page).Paced := by
  have hshown := hs.shown_showing hpage
  refine ⟨fun q hq => ?_, fun hnodup q hq hkind => ?_⟩
  · rw [hshown, List.mem_append, List.mem_singleton, not_or] at hq
    rw [polls_showing, hunseen q hq.1, if_neg fun h => hq.2 h.2.symm]
  · obtain rfl : p = q := Option.some_inj.mp hq
    rw [kindOf_showing] at hkind
    rw [hshown, List.nodup_append] at hnodup
    -- The page was not displayed before, so that it has not asked before.
    have hnone := hunseen p fun hp => hnodup.2.2 p hp p (by simp) rfl
    have hkind : page.kind = .dashboard := by simpa [kindOf, hpage] using hkind
    rw [polls_showing, hnone, if_pos ⟨hkind, rfl⟩]
    rfl

/-- A timer that is up keeps the pace: the next request waits in its place.

**Proof sketch.** The timer was the only one that is due, so that no request of the page waits. The
one that is sent takes its place. -/
theorem paced_elapsed (hs : s.Sound) (hpaced : s.Paced) {p n : Nat} (hp : s.current = some p)
    (hkind : s.kindOf p = some .dashboard) (htimer : s.timerOf p = some n)
    (callbacks : List Callback) :
    ((s.withTimer p none callbacks).asking (.refresh p) .inventory).Paced := by
  have htimers : s.timers.length = 1 := by
    rw [(hs.timer p n htimer).2.1]
    rfl
  have hshown : ((s.withTimer p none callbacks).asking (.refresh p) .inventory).shown = s.shown :=
    shown_asking _ _ _
  have hpolls : ∀ q, ((s.withTimer p none callbacks).asking (.refresh p) .inventory).polls q =
      s.polls q + if p = q then 1 else 0 := by
    intro q
    rw [polls_asking]
    simp only [Purpose.refresh.injEq]
    rfl
  refine ⟨fun q hq => ?_, fun hnodup q hq _ => ?_⟩
  · rw [hshown] at hq
    have hne : p ≠ q := fun heq => hq (heq ▸ hs.shown p hp)
    rw [hpolls, hpaced.unseen q hq, if_neg hne]
  · rw [hshown] at hnodup
    obtain rfl : p = q := Option.some_inj.mp (hp.symm.trans hq)
    have hone := hpaced.one hnodup p hp hkind
    have hnone : s.polls p = 0 := by omega
    rw [hpolls, hnone, if_pos rfl]
    rfl

/-- **What an ordinary action comes to keeps the pace.**

**Proof sketch.** By the outcomes. Quiet ones change neither the page that is current nor what waits
for it. A page that is displayed for the first time asks once and has no timer; the other three have
a lemma each. -/
theorem paced_of_outcome (hs : s.Sound) (hpaced : s.Paced) (h : Outcome s t) : t.Paced := by
  cases h with
  | rests hquiet hpolls => exact hs.paced_quiet hpaced hquiet hpolls
  | @shows u _ p page hquiet hpage hafter hwaiting =>
    have hsound := hs.quiet hquiet
    have hunseen : ∀ q, q ∉ u.shown → u.polls q = 0 := by
      intro q hq
      rw [hquiet.shown_eq] at hq
      exact hpaced.unseen_quiet hquiet hq
    refine (hsound.showing hpage).paced_quiet (hsound.paced_showing hunseen hpage) hafter ?_
    intro q _
    unfold polls
    rw [hwaiting]
  | submits credentials hquiet hwaiting hp hkind =>
    refine (hs.paced_quiet hpaced hquiet fun q _ => ?_).asking_login _ _
    unfold polls
    rw [hwaiting]
  | refreshes request hquiet hwaiting hp hkind _ =>
    exact hpaced.refreshed hquiet hp hkind hwaiting _ _
  | elapses hp hkind htimer => exact hs.paced_elapsed hpaced hp hkind htimer _

end Sound

/-- **The pace is kept in all states of a live session.** -/
theorem Reachable.paced {s : Session} (h : Reachable s) : s.Paced := by
  induction h with
  | begin hs =>
    cases hs with
    | blank services now cookies => exact ⟨fun _ _ => rfl, fun _ p hp => nomatch hp⟩
    | asking services now cookies =>
      rw [bootstrap_start]
      refine ⟨fun p _ => ?_, fun _ p hp => nomatch hp⟩
      rw [polls_asking]
      rfl
  | step action haction hs ih => exact hs.sound.paced_of_outcome ih (hs.sound.apply_outcome haction)

/-- **A dashboard awaits a reply or a timer.** In all states of a live session one timer is due at
most, with the delay that is configured, and it is the timer of the current page, which is a
dashboard; no other page has one. As long as no page was displayed twice, a dashboard that is
current has either one request for the inventory that waits or that timer.

**Proof sketch.** A timer that is due has an owner, and then it is the only one, with the delay of
the session (`howner`, from the invariant). This gives the first three parts. The last one is the
pace that every run keeps (`Reachable.paced`), since the requests of a page for the inventory are
its refreshes. -/
theorem Reachable.awaits_reply_or_timer {s : Session} (h : Reachable s) :
    s.timers.length ≤ 1 ∧
      (∀ t ∈ s.timers, t.delay = s.services.tuning.refreshSeconds ∧
        ∃ p, s.current = some p ∧ s.kindOf p = some .dashboard ∧ s.timerOf p = some t.number) ∧
      (∀ p n, s.timerOf p = some n ↔ s.current = some p ∧ ∃ t ∈ s.timers, t.number = n) ∧
      (s.shown.Nodup → ∀ p, s.current = some p → s.kindOf p = some .dashboard →
        s.inFlight .inventory p + s.timers.length = 1) := by
  have hs := h.sound
  have howner : ∀ t ∈ s.timers, ∃ p, s.timerOf p = some t.number ∧ s.current = some p ∧
      s.timers = [⟨t.number, s.services.tuning.refreshSeconds⟩] := by
    intro t ht
    obtain ⟨p, n, hn⟩ := hs.owner (List.ne_nil_of_mem ht)
    obtain ⟨hp, htimers, -⟩ := hs.timer p n hn
    obtain rfl : t = ⟨n, s.services.tuning.refreshSeconds⟩ := by simpa [htimers] using ht
    exact ⟨p, hn, hp, htimers⟩
  refine ⟨?_, ?_, ?_, ?_⟩
  · rcases htimers : s.timers with _ | ⟨t, rest⟩
    · simp
    · obtain ⟨p, -, -, hone⟩ := howner t (by simp [htimers])
      rw [← htimers, hone]
      exact Nat.le_refl 1
  · intro t ht
    obtain ⟨p, hn, hp, hone⟩ := howner t ht
    have hdelay : t = ⟨t.number, s.services.tuning.refreshSeconds⟩ :=
      List.mem_singleton.mp (hone ▸ ht)
    exact ⟨congrArg Timer.delay hdelay, p, hp, Sound.kindOf_of_timerOf hn, hn⟩
  · intro p n
    constructor
    · intro hn
      obtain ⟨hp, htimers, -⟩ := hs.timer p n hn
      exact ⟨hp, ⟨n, s.services.tuning.refreshSeconds⟩, by simp [htimers], rfl⟩
    · rintro ⟨hp, t, ht, rfl⟩
      obtain ⟨q, hn, hq, -⟩ := howner t ht
      obtain rfl : q = p := Option.some_inj.mp (hq.symm.trans hp)
      exact hn
  · intro hnodup p hp hkind
    rw [hs.inFlight_inventory]
    exact h.paced.one hnodup p hp hkind

/-- One dashboard after another: two requests wait, and the dashboard that is current awaits the
reply to one of them.

**Proof sketch.** Two dashboards are opened one after the other, which is computed. No page was
displayed twice, so `Reachable.awaits_reply_or_timer` applies to the second one. -/
theorem awaits_reply_standardStart :
    let s := (standardStart.apply (.present (.dashboard ⟨none, none, none⟩) [])).apply
      (.present (.dashboard ⟨none, none, none⟩) [])
    s.current = some 1 ∧ s.wire.waiting.length = 2 ∧
      s.inFlight .inventory 1 + s.timers.length = 1 := by
  intro s
  have hfirst : Reachable (standardStart.apply (.present (.dashboard ⟨none, none, none⟩) [])) :=
    .step _ ⟨rfl, rfl⟩ reachable_standardStart
  have hreach : Reachable s := .step _ ⟨rfl, rfl⟩ hfirst
  have heq : s = (standardStart.opening .dashboard).opening .dashboard := by
    show Session.apply _ _ = _
    have hnew : (PageBody.dashboard ⟨none, none, none⟩).IsNew := rfl
    rw [hfirst.sound.apply_present hnew, reachable_standardStart.sound.apply_present hnew]
    rfl
  have hcurrent : s.current = some 1 := by rw [heq]; rfl
  have hkind : s.kindOf 1 = some .dashboard := by rw [heq]; rfl
  have hshown : s.shown.Nodup := by rw [heq]; decide
  exact ⟨hcurrent, by rw [heq]; rfl, hreach.awaits_reply_or_timer.2.2.2 hshown 1 hcurrent hkind⟩

end Session

end CertDashboard
