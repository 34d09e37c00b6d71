import CertDashboard.Proofs.Session.AuditTrail

set_option autoImplicit false
set_option relaxedAutoImplicit false

/-!
# When the program reports that it is ready

A program begins with one question, and reports once how it begins: when that question fails, or
when the first page that the answer chose is on the screen. Everything else that a session does is
mute. It reports nothing, and asks no such question again.

## Main definitions

* `CertDashboard.Session.reports` — what was reported about the start of the program.
* `CertDashboard.Session.Mute` — a change that reports nothing.
* `CertDashboard.Session.Task.IsBeside` — the tasks that have nothing to do with the start.
* `CertDashboard.Session.applyAll` — actions one after another.
* `CertDashboard.Session.Undecided`, `CertDashboard.Session.Decided` — a session whose first
  question waits for its reply, and one in which no such question waits.
* `CertDashboard.Session.report` — what the answer makes a session report.

## Main results

* `CertDashboard.Session.Mute.of_aside` — an aside is mute.
* `CertDashboard.Session.hushed_perform`, `CertDashboard.Session.mute_run` — one such task and a run
  of them are mute.
* `CertDashboard.Session.Undecided.applyAll` — the first question waits until its reply comes.
* `CertDashboard.Session.Undecided.reply` — the first reply answers it, and is reported.
* `CertDashboard.Session.Decided.applyAll` — nothing is reported behind that.
* `CertDashboard.Session.reports_bootstrap` — what any session that begins with the first question
  reports.

## Design

Nothing is asked about the actions: replies may be there before their request, pages may display
others, be torn down and be initialized by hand, and the pager may be dropped at any time. Replies
come in the order of their requests, and a session begins with its first question. So that question
is the oldest request as long as it waits.
-/

namespace CertDashboard

namespace Session

/-- What an effect reports about the start of the program, if it reports anything. -/
def Effect.report? : Effect → Option (Except Api.Error Api.AuthMethod)
  | .ready outcome => some outcome
  | _ => none

/-- **What was reported about the start of the program**, in order. -/
def reports (s : Session) : List (Except Api.Error Api.AuthMethod) :=
  s.trace.filterMap Effect.report?

/-- An aside reports nothing. -/
theorem Effect.IsAside.report?_eq {e : Effect} (h : e.IsAside) : e.report? = none := by
  cases e with
  | ready outcome => exact h.elim
  | _ => rfl

/-- What was reported behind further effects. -/
theorem reports_of_trace {s t : Session} {es : List Effect} (h : t.trace = s.trace ++ es) :
    t.reports = s.reports ++ es.filterMap Effect.report? := by
  rw [reports, h, List.filterMap_append]
  rfl

/-! ## Mute changes -/

/-- **A mute change**: nothing is reported, and no request is added that the first page depends
on. -/
structure Mute (s t : Session) : Prop where
  /-- Nothing is reported. -/
  reports : t.reports = s.reports
  /-- Other requests may have been added. -/
  waiting : ∃ added, t.wire.waiting = s.wire.waiting ++ added ∧ ∀ e ∈ added, e.2 ≠ .firstPage

namespace Mute

variable {s t u : Session}

/-- A change without effects and requests is mute. -/
theorem of_trace (htrace : t.trace = s.trace) (hwire : t.wire = s.wire) : Mute s t where
  reports := congrArg (List.filterMap Effect.report?) htrace
  waiting := ⟨[], by simp [hwire], List.forall_mem_nil _⟩

/-- No change is mute. -/
theorem refl (s : Session) : Mute s s :=
  of_trace rfl rfl

/-- Mute changes one after another are mute. -/
theorem trans (h : Mute s t) (h' : Mute t u) : Mute s u := by
  obtain ⟨added, hadded, hnone⟩ := h.waiting
  obtain ⟨added', hadded', hnone'⟩ := h'.waiting
  refine ⟨h'.reports.trans h.reports, added ++ added', ?_, fun e he => ?_⟩
  · rw [hadded', hadded, List.append_assoc]
  · rcases List.mem_append.mp he with he | he
    · exact hnone e he
    · exact hnone' e he

/-- An effect that reports nothing is mute. -/
theorem emit {e : Effect} (he : e.report? = none) (s : Session) : Mute s (s.emit e) where
  reports := by
    rw [reports_of_trace (show (s.emit e).trace = s.trace ++ [e] from rfl)]
    simp [he]
  waiting := ⟨[], (List.append_nil _).symm, List.forall_mem_nil _⟩

/-- An aside is mute. -/
theorem of_aside (h : Aside s t) : Mute s t := by
  obtain ⟨es, htrace, hes⟩ := h.trace
  have hwire : t.wire = s.wire := congrArg Backdrop.wire h.backdrop
  refine ⟨?_, [], by simp [hwire], List.forall_mem_nil _⟩
  rw [reports_of_trace htrace, List.filterMap_eq_nil_iff.mpr fun e he => (hes e he).report?_eq,
    List.append_nil]

/-- Logging is mute. -/
theorem log (event : Log.Event) (s : Session) : Mute s (s.log event) :=
  emit (e := .log event) rfl s

/-- What is logged about a reply is mute. -/
theorem replied (request : Api.Request) (reply : Api.Reply) (s : Session) :
    Mute s ((request.replyEvents reply).foldl (fun s e => s.log e) s) := by
  unfold Api.Request.replyEvents
  split
  · exact refl s
  · exact log _ s

/-- A dashboard that is rendered is mute. -/
theorem renderDashboard (p : Nat) (s : Session) : Mute s (s.renderDashboard p) := by
  unfold Session.renderDashboard
  split
  · exact refl s
  · split
    · exact refl s
    · exact (emit (e := .render _ _) rfl s).trans (emit (e := .visible _ _) rfl _)

/-- A horizon that is changed is mute. -/
theorem toggle (p : Nat) (s : Session) : Mute s (s.toggle p) := by
  unfold Session.toggle
  split
  · exact refl s
  · next d _ =>
    have hhorizon : Mute s ((s.log (.horizonToggled (s.otherHorizon d.horizon))).modifyDashboard p
        fun d' => { d' with horizon := some (s.otherHorizon d.horizon) }) :=
      (log _ s).trans (of_trace rfl rfl)
    exact hhorizon.trans (renderDashboard p _)

/-- The current page that leaves the screen is mute. -/
theorem leave (s : Session) : Mute s s.leave := by
  unfold Session.leave
  split
  · exact refl s
  · next p _ =>
    have hcurrent : Mute s { s with current := none } := of_trace rfl rfl
    exact hcurrent.trans (of_aside (.teardown p _))

end Mute

/-! ## Mute tasks -/

/-- **Whether a task has nothing to do with the start of the program.** -/
def Task.IsBeside : Task → Prop
  | .send .firstPage _ | .settle .firstPage _ _ | .announce _ => False
  | _ => True

/-- **A mute change that leaves such tasks** to do. -/
def Hushed (s : Session) (r : Session × List Task) : Prop :=
  Mute s r.1 ∧ ∀ task ∈ r.2, task.IsBeside

variable {s t : Session}

/-- A mute change that leaves nothing to do. -/
theorem Mute.hushed (h : Mute s t) : Hushed s (t, []) :=
  ⟨h, List.forall_mem_nil _⟩

/-- What follows on a mute change. -/
theorem Hushed.after {r : Session × List Task} (h : Hushed t r) (hmute : Mute s t) : Hushed s r :=
  ⟨hmute.trans h.1, h.2⟩

/-- A page that is made, to be displayed next. -/
theorem hushed_displayNew (page : Page) (s : Session) : Hushed s (s.displayNew page) :=
  ⟨.of_trace rfl rfl, by simp [displayNew, Task.IsBeside]⟩

/-- A page that is initialized.

**Proof sketch.** By the cases of `activate`. A form is rendered and a dashboard shows its region;
the tasks of the dashboard and of a probe have nothing to do with the first question. -/
theorem hushed_activate (p : Nat) (s : Session) : Hushed s (s.activate p) := by
  have hactive : Mute s (s.modifyPage p fun page => { page with isActive := true }) :=
    .of_trace rfl rfl
  unfold activate
  split
  · exact (Mute.refl s).hushed
  · split
    · exact (((hactive.trans (.emit (e := .render _ _) rfl _)).trans (.of_aside (.bind _ _ _))).trans
        (.emit (e := .visible _ _) rfl _)).hushed
    · have hhorizon : Mute s ((s.modifyPage p fun page => { page with isActive := true
          }).modifyDashboard p fun d => { d with horizon := some s.services.tuning.horizon }) :=
        hactive.trans (.of_trace rfl rfl)
      exact ⟨(hhorizon.trans (.of_aside (.bind _ _ _))).trans (.emit (e := .visible _ _) rfl _),
        by simp [Task.IsBeside]⟩
    · exact (Mute.log _ s).hushed
    · exact (Mute.log _ s).hushed
    · exact ⟨.emit (e := .journal _ _) rfl s, by simp [Task.IsBeside]⟩

/-- A page that is displayed. -/
theorem hushed_display (p : Nat) (page : Page) (s : Session) : Hushed s (s.display p page) := by
  have hleft : Mute s { (s.log (.displayed s.currentKind page.kind)).leave with current := some p } :=
    ((Mute.log _ s).trans (.leave _)).trans (.of_trace rfl rfl)
  unfold display
  exact (hushed_activate p _).after
    ((hleft.trans (.of_aside (.giveContext p _))).trans (.emit (e := .visible _ _) rfl _))

/-- The reply to a login. -/
theorem hushed_settleLogin (r : Except Api.Error Unit) (s : Session) :
    Hushed s (s.settleLogin r) := by
  unfold settleLogin
  split
  · exact (hushed_displayNew _ _).after (.log _ s)
  · split
    · exact (hushed_displayNew _ _).after (.log _ s)
    · exact (hushed_displayNew _ _).after (.log _ s)

/-- The reply to a refresh. -/
theorem hushed_settleRefresh (p : Nat) (r : Except Api.Error (List Certificate)) (s : Session) :
    Hushed s (s.settleRefresh p r) := by
  unfold settleRefresh
  split
  · next certificates =>
    have hsnapshot : Mute s ((s.log (.refreshed certificates.length)).modifyDashboard p
        fun d => { d with snapshot := some certificates }) := (Mute.log _ s).trans (.of_trace rfl rfl)
    exact ((hsnapshot.trans (.renderDashboard p _)).trans (.of_aside (.schedule p _))).hushed
  · split
    · exact (hushed_displayNew _ _).after ((Mute.log _ s).trans (.of_aside (.clearToken _)))
    · exact (hushed_displayNew _ _).after (.log _ s)

/-- Any reply but that to the first question. -/
theorem hushed_settle {purpose : Purpose} (h : purpose ≠ .firstPage) (request : Api.Request)
    (reply : Api.Reply) (s : Session) : Hushed s (s.settle purpose request reply) := by
  have hreplied := Mute.replied request reply s
  unfold settle
  dsimp only
  split
  · exact absurd rfl h
  · split
    · exact (hushed_settleLogin _ _).after hreplied
    · exact (hreplied.trans (.log _ _)).hushed
  · split
    · exact (hushed_settleRefresh _ _ _).after hreplied
    · exact (hreplied.trans (.log _ _)).hushed

/-- Any request but the first question.

**Proof sketch.** Without a script the request waits, for a purpose that is not the first page. With
one it is to be settled, for the same purpose. -/
theorem hushed_send {purpose : Purpose} (h : purpose ≠ .firstPage) (call : Api.Call)
    (s : Session) : Hushed s (s.send purpose call) := by
  have hsent : ∀ waits, Mute s ((s.log (s.services.client.request call).sentEvent).emit
      (.sent (s.services.client.request call) waits)) :=
    fun waits => (Mute.log _ s).trans (.emit (e := .sent _ _) rfl _)
  unfold send
  dsimp only
  split
  · refine Mute.hushed ⟨(hsent true).reports, _, rfl, fun e he => ?_⟩
    obtain rfl := List.mem_singleton.mp he
    exact h
  · refine ⟨(hsent false).trans (.of_trace rfl rfl), fun task htask => ?_⟩
    obtain rfl := List.mem_singleton.mp htask
    cases purpose with
    | firstPage => exact absurd rfl h
    | login p => exact trivial
    | refresh p => exact trivial

/-- A timer that is up. -/
theorem hushed_tick (n : Nat) (s : Session) : Hushed s (s.tick n) := by
  unfold tick
  split
  · exact (Mute.refl s).hushed
  · split
    · exact (Mute.refl s).hushed
    · dsimp only
      split
      · exact ⟨.of_trace rfl rfl, by simp [Task.IsBeside]⟩
      · exact Mute.hushed (.of_trace rfl rfl)

/-- A handler that is called. -/
theorem hushed_handle (handler : Handler) (s : Session) : Hushed s (s.handle handler) := by
  cases handler with
  | submit p =>
    simp only [handle, submit]
    split
    · have hform : Mute s { s with form := { s.form with password := "" } } := .of_trace rfl rfl
      exact ⟨(hform.trans (.emit (e := .clearPassword) rfl _)).trans (.log .loginAttempt _),
        by simp [Task.IsBeside]⟩
    · exact (Mute.refl s).hushed
  | toggle p => exact (Mute.toggle p s).hushed
  | logout =>
    exact (hushed_displayNew _ _).after ((Mute.log .logout s).trans (.of_aside (.clearToken _)))

/-- **A task that has nothing to do with the start of the program** is mute, and leaves such tasks
only.

**Proof sketch.** By the kinds of tasks, each of which has its lemma. An announcement is excluded by
the hypothesis, and so are the purposes of the first page. -/
theorem hushed_perform {task : Task} (h : task.IsBeside) (s : Session) :
    Hushed s (s.perform task) := by
  cases task with
  | display p =>
    simp only [perform]
    split
    · exact (Mute.refl s).hushed
    · split
      · exact hushed_display _ _ _
      · exact (Mute.log _ s).hushed
  | follow p isDisplayed =>
    exact ⟨.of_trace rfl rfl, by cases isDisplayed <;> simp [perform, Task.IsBeside]⟩
  | send purpose call =>
    refine hushed_send ?_ call s
    rintro rfl
    exact h
  | settle purpose request reply =>
    refine hushed_settle ?_ request reply s
    rintro rfl
    exact h
  | tick n => exact hushed_tick n s
  | handle handler => exact hushed_handle handler s
  | announce auth => exact h.elim

/-- **A run of such tasks is mute**, with all that they leave to do. -/
theorem mute_run {tasks : List Task} (h : ∀ task ∈ tasks, task.IsBeside) (s : Session) :
    Mute s (s.run tasks) := by
  induction tasks, s using run.induct with
  | case1 s =>
    rw [run_nil]
    exact .refl s
  | case2 s task rest ih =>
    obtain ⟨hmute, hleft⟩ := hushed_perform (h task List.mem_cons_self) s
    rw [run_cons]
    refine hmute.trans (ih fun u hu => ?_)
    rcases List.mem_append.mp hu with hu | hu
    · exact hleft u hu
    · exact h u (List.mem_cons_of_mem task hu)

/-- **The start of an action** is mute, unless it is a reply.

**Proof sketch.** By the kinds of actions. Those on a held page do what the page does, and all
others but a reply have neither trace nor request. -/
theorem hushed_begin {action : Action} (h : ∀ reply, action ≠ .reply reply) (s : Session) :
    Hushed s (s.begin action) := by
  have hquiet : ∀ (t : Session) (tasks : List Task), t.trace = s.trace → t.wire = s.wire →
      (∀ task ∈ tasks, task.IsBeside) → Hushed s (t, tasks) :=
    fun _ _ htrace hwire htasks => ⟨.of_trace htrace hwire, htasks⟩
  cases action with
  | activate place =>
    simp only [begin]
    cases s.heldAt place with
    | none => exact (Mute.refl s).hushed
    | some p => exact hushed_activate p s
  | teardown place =>
    simp only [begin]
    cases s.heldAt place with
    | none => exact (Mute.refl s).hushed
    | some p => exact (Mute.of_aside (.teardown p s)).hushed
  | giveContext place =>
    simp only [begin]
    cases s.heldAt place with
    | none => exact (Mute.refl s).hushed
    | some p => exact (Mute.of_aside (.giveContext p s)).hushed
  | reply reply => exact absurd rfl (h reply)
  | _ => exact hquiet _ _ rfl rfl (by simp [Task.IsBeside])

/-- **Actions one after another**, each with all that it leads to. -/
def applyAll (actions : List Action) (s : Session) : Session :=
  actions.foldl (fun s action => s.apply action) s

/-- The first action, and then the others. -/
theorem applyAll_cons (action : Action) (actions : List Action) (s : Session) :
    s.applyAll (action :: actions) = (s.apply action).applyAll actions := rfl

/-- **Any action but a reply is mute**, with all that it leads to. -/
theorem mute_apply {action : Action} (h : ∀ reply, action ≠ .reply reply) (s : Session) :
    Mute s (s.apply action) := by
  obtain ⟨hbegin, htasks⟩ := hushed_begin h s
  exact hbegin.trans (mute_run htasks _)

/-! ## The first question -/

/-- **The first question waits**: it is the oldest request and the only one of its kind, and nothing
was reported. -/
structure Undecided (s : Session) : Prop where
  /-- Nothing was reported. -/
  reports : s.reports = []
  /-- The question is the oldest request, and the only one of its kind. -/
  waiting : ∃ request rest, s.wire.waiting = (request, .firstPage) :: rest ∧
    ∀ e ∈ rest, e.2 ≠ .firstPage

/-- **The first question does not wait**: it was answered, or was never asked. -/
def Decided (s : Session) : Prop :=
  ∀ e ∈ s.wire.waiting, e.2 ≠ .firstPage

/-- A mute change lets the first question wait. -/
theorem Undecided.mute (hs : s.Undecided) (h : Mute s t) : t.Undecided := by
  obtain ⟨request, rest, hwaiting, hrest⟩ := hs.waiting
  obtain ⟨added, hadded, hnone⟩ := h.waiting
  refine ⟨h.reports.trans hs.reports, request, rest ++ added, ?_, fun e he => ?_⟩
  · rw [hadded, hwaiting, List.cons_append]
  · exact (List.mem_append.mp he).elim (hrest e) (hnone e)

/-- A mute change does not ask it. -/
theorem Decided.mute (hs : s.Decided) (h : Mute s t) : t.Decided := by
  obtain ⟨added, hadded, hnone⟩ := h.waiting
  intro e he
  rw [hadded] at he
  exact (List.mem_append.mp he).elim (hs e) (hnone e)

/-- A program begins with its first question. -/
theorem undecided_bootstrap (services : Services) (now : Int64) (cookies : String) :
    (start services now cookies []).bootstrap.Undecided := by
  rw [bootstrap_start]
  exact ⟨rfl, _, [], rfl, List.forall_mem_nil _⟩

/-- **The first question waits until its reply comes**, whatever is done meanwhile. -/
theorem Undecided.applyAll (hs : s.Undecided) {actions : List Action}
    (h : ∀ action ∈ actions, ∀ reply, action ≠ .reply reply) :
    (s.applyAll actions).Undecided := by
  induction actions generalizing s with
  | nil => exact hs
  | cons action actions ih =>
    exact ih (hs.mute (mute_apply (h action List.mem_cons_self) s))
      fun a ha => h a (List.mem_cons_of_mem action ha)

/-- Behind the first question, an action reports nothing.

**Proof sketch.** A reply answers a request whose purpose is not the first page, since that was
decided. Settling it is mute (`mute_run`), and so is every other action (`mute_apply`). -/
theorem Decided.apply (hs : s.Decided) (action : Action) :
    (s.apply action).Decided ∧ (s.apply action).reports = s.reports := by
  by_cases hreply : ∃ reply, action = .reply reply
  · obtain ⟨reply, rfl⟩ := hreply
    rcases hwaiting : s.wire.waiting with _ | ⟨⟨request, purpose⟩, rest⟩
    · rw [apply_reply_nil hwaiting]
      exact ⟨hs, rfl⟩
    · have hbeside : ∀ task ∈ [Task.settle purpose request reply], task.IsBeside := by
        intro task htask
        obtain rfl := List.mem_singleton.mp htask
        have hpurpose : purpose ≠ .firstPage := hs (request, purpose) (by simp [hwaiting])
        cases purpose with
        | firstPage => exact absurd rfl hpurpose
        | login p => exact trivial
        | refresh p => exact trivial
      have hpopped : Decided { s with wire := { s.wire with waiting := rest } } :=
        fun e he => hs e (hwaiting ▸ List.mem_cons_of_mem _ he)
      have hmute := mute_run hbeside { s with wire := { s.wire with waiting := rest } }
      simp only [Session.apply, begin, Api.Wire.pop?, hwaiting]
      exact ⟨hpopped.mute hmute, hmute.reports⟩
  · have hmute := mute_apply (fun reply heq => hreply ⟨reply, heq⟩) s
    exact ⟨hs.mute hmute, hmute.reports⟩

/-- **Nothing is reported behind the first question**, whatever is done. -/
theorem Decided.applyAll (hs : s.Decided) (actions : List Action) :
    (s.applyAll actions).reports = s.reports := by
  induction actions generalizing s with
  | nil => rfl
  | cons action actions ih =>
    obtain ⟨hdecided, hreports⟩ := hs.apply action
    exact (ih hdecided).trans hreports

/-! ## The answer -/

/-- **What the answer of the first question makes a session report.** When pages can be displayed no
longer, an answer is of no use. -/
def report (answer : Except Api.Error Api.AuthMethod) (s : Session) :
    List (Except Api.Error Api.AuthMethod) :=
  match answer with
  | .error e => [.error e]
  | .ok auth => if s.isAlive then [.ok auth] else []

/-- The answer of the first question is reported, and the question is not asked again.

**Proof sketch.** An error is logged and reported. With an answer and a live session, the page is
displayed, which is mute, and then the answer is reported; with a session that was ended, the answer
is only logged. -/
theorem Decided.settleFirst (hs : s.Decided) (answer : Except Api.Error Api.AuthMethod) :
    (finish (s.settleFirst answer)).Decided ∧
      (finish (s.settleFirst answer)).reports = s.reports ++ s.report answer := by
  cases answer with
  | error e =>
    have hlog : Mute s (s.log (.authQueryFailed e)) := .log _ s
    have hdecided : (s.log (.authQueryFailed e)).Decided := hs.mute hlog
    simp only [Session.settleFirst, finish, run_nil]
    refine ⟨hdecided, ?_⟩
    rw [reports_of_trace (s := s.log (.authQueryFailed e)) rfl, hlog.reports]
    rfl
  | ok auth =>
    by_cases halive : s.isAlive = true
    · -- The first page is displayed before anything is reported, and that is mute.
      obtain ⟨u, hmute, heq⟩ : ∃ u, Mute s u ∧
          finish (s.settleFirst (.ok auth)) = u.emit (.ready (.ok auth)) := by
        simp only [Session.settleFirst, if_pos halive, finish, run_append]
        have hnew := (hushed_displayNew (firstPage auth (s.wireLogout auth).token.isSome) _).after
          ((Mute.of_aside (.wireLogout auth s)).trans (.log (.firstPage auth (s.wireLogout auth).token.isSome
            (firstPage auth (s.wireLogout auth).token.isSome).kind) _))
        refine ⟨_, hnew.1.trans (mute_run hnew.2 _), ?_⟩
        rw [run_cons]
        simp only [perform, List.append_nil, run_nil]
      have hdecided : u.Decided := hs.mute hmute
      rw [heq]
      refine ⟨hdecided, ?_⟩
      rw [reports_of_trace (s := u) rfl, hmute.reports, report, if_pos halive]
      rfl
    · have hlog : Mute s (s.log .pagerDropped) := .log _ s
      simp only [Session.settleFirst, if_neg halive, finish, run_nil]
      refine ⟨hs.mute hlog, ?_⟩
      rw [hlog.reports, report, if_neg halive, List.append_nil]

/-- Behind what is logged about a reply, the same was reported. -/
theorem reports_answered (rest : List (Api.Request × Purpose)) (request : Api.Request)
    (reply : Api.Reply) (s : Session) : (s.answered rest request reply).reports = s.reports := by
  rw [reports_of_trace (s := s) rfl, List.filterMap_map]
  simp [Function.comp_def, Effect.report?]

/-- **The reply to the first question is settled by what it says**, in any session. -/
theorem apply_reply_first {request : Api.Request} {rest : List (Api.Request × Purpose)}
    (h : s.wire.waiting = (request, .firstPage) :: rest) (reply : Api.Reply) :
    s.apply (.reply reply) =
      finish ((s.answered rest request reply).settleFirst (Api.authMethodOf reply)) := by
  simp only [Session.apply, begin, Api.Wire.pop?, h, run_cons, perform, settle, foldl_log,
    List.append_nil]
  rfl

/-- **The first reply answers the first question**: it makes the session report once, or not at all
when the answer is of no use. -/
theorem Undecided.reply (hs : s.Undecided) (reply : Api.Reply) :
    (s.apply (.reply reply)).Decided ∧
      (s.apply (.reply reply)).reports = s.report (Api.authMethodOf reply) := by
  obtain ⟨request, rest, hwaiting, hrest⟩ := hs.waiting
  have hdecided : (s.answered rest request reply).Decided := hrest
  obtain ⟨hafter, hreports⟩ := hdecided.settleFirst (Api.authMethodOf reply)
  rw [apply_reply_first hwaiting]
  refine ⟨hafter, ?_⟩
  rw [hreports, reports_answered, hs.reports, List.nil_append]
  cases Api.authMethodOf reply <;> rfl

/-- **A program reports once at most how it begins**: when the first reply comes, whatever was done
before that and is done later. -/
theorem reports_bootstrap (services : Services) (now : Int64) (cookies : String)
    {before : List Action} (h : ∀ action ∈ before, ∀ early, action ≠ .reply early)
    (reply : Api.Reply) (after : List Action) :
    let s := (start services now cookies []).bootstrap.applyAll before
    s.reports = [] ∧
      ((s.apply (.reply reply)).applyAll after).reports = s.report (Api.authMethodOf reply) := by
  intro s
  have hs : s.Undecided := (undecided_bootstrap services now cookies).applyAll h
  obtain ⟨hdecided, hreports⟩ := hs.reply reply
  exact ⟨hs.reports, (hdecided.applyAll after).trans hreports⟩

end Session

end CertDashboard
