import Mathlib.Data.List.Forall2
import CertDashboard.Proofs.Session.Concealment

set_option autoImplicit false
set_option relaxedAutoImplicit false

/-!
# Sessions that differ in secrets only

The same happens to two sessions, but other passwords are typed and there are other cookies. What
they log, what they show and what they ask for is the same, as long as there is a session token in
both or in neither when the first page is chosen.

## Main definitions

* `CertDashboard.Api.Request.Matches` — two requests that are the same, but for the bodies of
  logins.
* `CertDashboard.Session.Twins` — two sessions in which the same happens, up to the secrets.
* `CertDashboard.Session.scenes` — all that a session does to the document.

## Main results

* `CertDashboard.Session.conceal_run`, `CertDashboard.Session.conceal_apply` — runs and actions that
  differ in secrets only stay that way.
* `CertDashboard.Session.Twins.agree` — what twins agree on.

## Design

Two sessions are compared by what they are without their secrets. Only one reply reads a secret: the
one that the first page depends on. It comes alone, and all that it leaves to do is as blind as any
other task.

All actions are covered, also those that stand for other surroundings than a browser.
-/

namespace CertDashboard

/-- Lists that a function maps to the same agree in its values, place by place. -/
theorem forall₂_of_map_eq {α β : Type} {f : α → β} {l m : List α} (h : l.map f = m.map f) :
    List.Forall₂ (fun a b => f a = f b) l m := by
  rw [← List.forall₂_eq_eq_eq, List.forall₂_map_left_iff, List.forall₂_map_right_iff] at h
  exact h

namespace Api

/-- **Two requests that are the same**, but for their bodies if they are logins. -/
structure Request.Matches (q r : Request) : Prop where
  /-- They have the same method. -/
  method : r.method = q.method
  /-- They have the same address. -/
  url : r.url = q.url
  /-- They have the same body, or are logins. -/
  body : r.body = q.body ∨ q.method = .post ∧ q.url.path = "/v1/auth"

/-- Requests that differ in secrets only are the same, but for the bodies of logins. -/
theorem Request.matches_of_conceal {q r : Request} (h : q.conceal = r.conceal) : q.Matches r := by
  have hmethod : r.method = q.method := by rw [← r.conceal_eq.1, ← h, q.conceal_eq.1]
  have hurl : r.url = q.url := by rw [← r.conceal_eq.2, ← h, q.conceal_eq.2]
  refine ⟨hmethod, hurl, ?_⟩
  by_cases hlogin : q.method = .post ∧ q.url.path = "/v1/auth"
  · exact .inr hlogin
  · rw [Request.conceal, Request.conceal, hmethod, hurl, if_neg hlogin, if_neg hlogin] at h
    exact .inl (congrArg Request.body h.symm)

end Api

namespace Session

/-! ## Runs -/

/-- Whether a task comes after the first page was chosen, or has nothing to do with it. -/
def Task.IsLater : Task → Prop
  | .send .firstPage _ | .settle .firstPage _ _ => False
  | _ => True

/-- Such a task does not choose the first page. -/
theorem Task.IsLater.not_choosesFirst {task : Task} (h : task.IsLater) : ¬ task.ChoosesFirst := by
  cases task with
  | settle purpose request reply =>
    cases purpose with
    | firstPage => exact h.elim
    | _ => exact id
  | _ => exact id

/-- What initializing a page leaves to do has nothing to do with the first page. -/
theorem isLater_activate (p : Nat) (s : Session) : ∀ u ∈ (s.activate p).2, u.IsLater := by
  unfold activate
  split
  · simp
  · split <;> simp [Task.IsLater]

/-- A reply leaves nothing to do that the first page depends on.

**Proof sketch.** By what the reply answers, whether the page is current, and what the reply says.
At most a page is left to be displayed, behind the first page along with the announcement. -/
theorem isLater_settle (purpose : Purpose) (request : Api.Request) (reply : Api.Reply)
    (s : Session) : ∀ u ∈ (s.settle purpose request reply).2, u.IsLater := by
  unfold settle
  dsimp only
  split
  · unfold settleFirst
    split
    · simp
    · split <;> simp [displayNew, Task.IsLater]
  · split
    · unfold settleLogin
      split
      · simp [displayNew, Task.IsLater]
      · split <;> simp [displayNew, Task.IsLater]
    · simp
  · split
    · unfold settleRefresh
      split
      · simp
      · split <;> simp [displayNew, Task.IsLater]
    · simp

/-- **What a task leaves to do** has nothing to do with the first page, unless the task asks for
it.

**Proof sketch.** By the kinds of tasks. A request of the first page would leave the choice of
that to be made, which is what the hypothesis excludes; a login or a refresh leaves one of its
own kind. -/
theorem isLater_perform {task : Task} (h : ∀ call, task ≠ .send .firstPage call) (s : Session) :
    ∀ u ∈ (s.perform task).2, u.IsLater := by
  cases task with
  | display p =>
    unfold perform
    dsimp only
    split
    · simp
    · split
      · exact isLater_activate _ _
      · simp
  | follow p isDisplayed => cases isDisplayed <;> simp [perform, Task.IsLater]
  | send purpose call =>
    unfold perform send
    dsimp only
    split
    · simp
    · cases purpose with
      | firstPage => exact absurd rfl (h call)
      | _ => simp [Task.IsLater]
  | settle purpose request reply => exact isLater_settle purpose request reply s
  | tick n =>
    unfold perform tick
    dsimp only
    split
    · simp
    · split
      · simp
      · split <;> simp [Task.IsLater]
  | handle handler =>
    cases handler with
    | submit p =>
      unfold perform handle submit
      dsimp only
      split <;> simp [Task.IsLater]
    | toggle p => simp [perform, handle]
    | logout => simp [perform, handle, displayNew, Task.IsLater]
  | announce auth => simp [perform]

/-- **Runs that differ in secrets only** stay that way, once the first page is chosen.

**Proof sketch.** By the recursion of the run on one side, along with the other one. Concealed tasks
do the same to concealed sessions (`concealed_perform_congr`), and what they leave to do is again
not about the first page (`isLater_perform`), which is the invariant. -/
theorem conceal_run {s t : Session} {ts us : List Task} (hst : s.conceal = t.conceal)
    (htasks : ts.map Task.conceal = us.map Task.conceal) (hlater : ∀ task ∈ ts, task.IsLater) :
    (s.run ts).conceal = (t.run us).conceal := by
  induction ts, s using run.induct generalizing us t with
  | case1 s =>
    obtain rfl : us = [] := List.map_eq_nil_iff.mp htasks.symm
    rwa [run_nil, run_nil]
  | case2 s task rest ih =>
    obtain ⟨task', rest', rfl, htask, hrest⟩ := List.map_eq_cons_iff.mp htasks.symm
    have hfirst := (hlater task List.mem_cons_self).not_choosesFirst
    have hperform := concealed_perform_congr hst htask.symm fun h => absurd h hfirst
    rw [run_cons, run_cons]
    refine ih (congrArg Prod.fst hperform) ?_ ?_
    · rw [List.map_append, List.map_append, hrest]
      exact congrArg (· ++ _) (congrArg Prod.snd hperform)
    · intro u hu
      rcases List.mem_append.mp hu with hu | hu
      · refine isLater_perform ?_ s u hu
        rintro call rfl
        exact (hlater _ List.mem_cons_self)
      · exact hlater u (List.mem_cons_of_mem task hu)

/-- The run of a task that the first page depends on. -/
theorem conceal_run_first {s t : Session} {a b : Task} (hst : s.conceal = t.conceal)
    (hab : a.conceal = b.conceal) (ha : a.ChoosesFirst)
    (htoken : s.token.isSome = t.token.isSome) : (s.run [a]).conceal = (t.run [b]).conceal := by
  have hperform := concealed_perform_congr hst hab fun _ => htoken
  rw [run_cons, run_cons, List.append_nil, List.append_nil]
  refine conceal_run (congrArg Prod.fst hperform) (congrArg Prod.snd hperform)
    (isLater_perform ?_ s)
  rintro call rfl
  exact ha

/-! ## Actions -/

/-- What an action starts.

**Proof sketch.** By the kinds of actions. Concealing changes no page, no binding and no number, so
the action finds the same page, handler or request; what it leaves to do then is concealed task by
task. -/
theorem concealed_begin (a : Action) (s : Session) :
    concealed (s.begin a) = s.conceal.begin a.conceal := by
  cases a with
  | keep body plans => rfl
  | present body plans => rfl
  | hold => rfl
  | display place => exact Prod.ext rfl (List.map_map ..)
  | activate place =>
    unfold begin
    dsimp only [Action.conceal]
    rw [heldAt_conceal]
    split
    · exact concealed_activate s _
    · rfl
  | teardown place =>
    unfold begin
    dsimp only [Action.conceal]
    rw [heldAt_conceal]
    cases s.heldAt place with
    | none => rfl
    | some p => exact Prod.ext (conceal_teardown s p) rfl
  | giveContext place =>
    unfold begin
    dsimp only [Action.conceal]
    rw [heldAt_conceal]
    cases s.heldAt place with
    | none => rfl
    | some p => exact Prod.ext (conceal_giveContext s p) rfl
  | drop place => rfl
  | close => rfl
  | type credentials => rfl
  | gesture g => exact Prod.ext rfl (List.map_map ..)
  | replay n =>
    unfold begin
    dsimp only [Action.conceal]
    rw [handlers_conceal]
    exact Prod.ext rfl (List.map_map ..)
  | reply reply =>
    rcases hwaiting : s.wire.waiting with _ | ⟨⟨request, purpose⟩, rest⟩
    · have hnone : s.conceal.wire.waiting = [] := by simp [conceal, hwaiting]
      simp only [begin, Api.Wire.pop?, Action.conceal, hwaiting, hnone]
      rfl
    · have hsome : s.conceal.wire.waiting =
          (request.conceal, purpose) :: rest.map fun e => (e.1.conceal, e.2) := by
        simp [conceal, hwaiting]
      simp only [begin, Api.Wire.pop?, Action.conceal, hwaiting, hsome]
      rfl
  | script replies => rfl
  | elapse => exact Prod.ext rfl (List.map_map ..)
  | fire n => rfl
  | setClock now => rfl
  | setCookies cookies => rfl

/-- Whether the oldest request that waits is the one that the first page depends on. -/
def AwaitsFirst (s : Session) : Prop :=
  s.wire.waiting.head?.map Prod.snd = some .firstPage

/-- **What an action starts** has nothing to do with the first page, unless it is the reply that the
first page depends on.

**Proof sketch.** By the kinds of actions. Only a reply can leave the choice of the first page to be
made, and only if the request that waits first is for that. -/
theorem isLater_begin (a : Action) (s : Session) : (∀ u ∈ (s.begin a).2, u.IsLater) ∨
    ∃ reply request, a = .reply reply ∧ s.AwaitsFirst ∧
      (s.begin a).2 = [.settle .firstPage request reply] := by
  cases a with
  | activate place =>
    refine .inl ?_
    unfold begin
    dsimp only
    split
    · exact isLater_activate _ _
    · simp
  | reply reply =>
    rcases hwaiting : s.wire.waiting with _ | ⟨⟨request, purpose⟩, rest⟩
    · refine .inl ?_
      simp [begin, Api.Wire.pop?, hwaiting]
    · cases purpose with
      | firstPage =>
        refine .inr ⟨reply, request, rfl, ?_, ?_⟩
        · rw [AwaitsFirst, hwaiting]
          rfl
        · simp [begin, Api.Wire.pop?, hwaiting]
      | _ =>
        refine .inl ?_
        simp [begin, Api.Wire.pop?, hwaiting, Task.IsLater]
  | _ =>
    refine .inl ?_
    simp [begin, Task.IsLater]

/-- A reply that comes does not change the session token at once. -/
theorem token_begin_reply (reply : Api.Reply) (s : Session) :
    (s.begin (.reply reply)).1.token = s.token := by
  unfold begin
  dsimp only
  split <;> rfl

/-- **Actions that differ in secrets only** keep two sessions that way; with the reply that the
first page depends on there has to be a session token in both or in neither.

**Proof sketch.** Both actions leave the same to do up to secrets (`concealed_begin`). If that is
not about the first page, then so are the runs (`conceal_run`). Otherwise it is the reply that
chooses the page (`isLater_begin`), the same one on both sides, and the hypothesis on the token is
what the choice needs (`conceal_run_first`). -/
theorem conceal_apply {s t : Session} {a b : Action} (hst : s.conceal = t.conceal)
    (hab : a.conceal = b.conceal)
    (htoken : ∀ reply, a = .reply reply → s.AwaitsFirst → s.token.isSome = t.token.isSome) :
    (s.apply a).conceal = (t.apply b).conceal := by
  have hbegin : concealed (s.begin a) = concealed (t.begin b) := by
    rw [concealed_begin, hst, hab, concealed_begin]
  have hstate : (s.begin a).1.conceal = (t.begin b).1.conceal := congrArg Prod.fst hbegin
  have htasks : (s.begin a).2.map Task.conceal = (t.begin b).2.map Task.conceal :=
    congrArg Prod.snd hbegin
  rcases isLater_begin a s with hlater | ⟨reply, request, rfl, hfirst, htask⟩
  · exact conceal_run hstate htasks hlater
  · have hreply : b = .reply reply := by
      cases b with
      | reply reply' => exact hab.symm
      | _ => cases hab
    subst hreply
    rw [htask] at htasks
    obtain ⟨task, rest, htask', htask_eq, hrest⟩ := List.map_eq_cons_iff.mp htasks.symm
    obtain rfl : rest = [] := List.map_eq_nil_iff.mp hrest
    have htokens := htoken reply rfl hfirst
    rw [← token_begin_reply reply s, ← token_begin_reply reply t] at htokens
    unfold apply
    dsimp only
    rw [htask, htask']
    exact conceal_run_first hstate htask_eq.symm trivial htokens

/-! ## Twins -/

/-- **Two sessions in which the same happens**, but for the passwords that are typed and for the
cookies. When the first page is chosen there is a session token in both, or in neither. -/
inductive Twins : Session → Session → Prop where
  /-- Both ask for the first page. -/
  | begin (services : Services) (now : Int64) (cookies cookies' : String)
    (script : List Api.Reply) : (script ≠ [] →
      (Cookie.token cookies services.cookie).isSome =
        (Cookie.token cookies' services.cookie).isSome) →
    Twins (start services now cookies script).bootstrap
      (start services now cookies' script).bootstrap
  /-- The same happens to both. -/
  | step {s t : Session} (a b : Action) : a.conceal = b.conceal →
    (∀ reply, a = .reply reply → s.AwaitsFirst → s.token.isSome = t.token.isSome) →
    Twins s t → Twins (s.apply a) (t.apply b)

/-- Twins differ in secrets only.

**Proof sketch.** Induction on the two runs. At their beginning the cookies are all that differs,
and with a script the first page is chosen at once. A step is `conceal_apply`. -/
theorem Twins.conceal_eq {s t : Session} (h : Twins s t) : s.conceal = t.conceal := by
  induction h with
  | begin services now cookies cookies' script htoken =>
    have hstart : ((start services now cookies script).log (.started version)).conceal =
        ((start services now cookies' script).log (.started version)).conceal := rfl
    have hsent : concealed _ = concealed _ :=
      concealed_perform_congr (a := .send .firstPage .authMethod) hstart rfl False.elim
    have hstate := congrArg Prod.fst hsent
    unfold bootstrap
    rw [run_cons, run_cons]
    cases script with
    | nil => exact conceal_run hstate rfl (List.forall_mem_nil _)
    | cons reply script =>
      exact conceal_run_first hstate rfl trivial (htoken (List.cons_ne_nil reply script))
  | step a b hab htoken _ ih => exact conceal_apply ih hab htoken

/-- Whether an effect is one on the document. -/
def Effect.isScene : Effect → Bool
  | .render _ _ | .visible _ _ | .bind _ _ | .unbind _ | .clearPassword | .logoutAvailable _ => true
  | _ => false

/-- All effects on the document, in order. -/
def scenes (s : Session) : List Effect :=
  s.trace.filter Effect.isScene

/-- The effects on the document are no secret. -/
theorem scenes_conceal (s : Session) : s.conceal.scenes = s.scenes := by
  unfold scenes conceal
  dsimp only
  induction s.trace with
  | nil => rfl
  | cons e trace ih =>
    rw [List.map_cons, List.filter_cons, List.filter_cons, ih]
    cases e <;> rfl

/-- The log is no secret. -/
theorem events_conceal (s : Session) : s.conceal.events = s.events := by
  simp only [events, conceal, List.filterMap_map]
  congr 1
  funext e
  cases e <;> rfl

/-- The requests that were sent are no secret, but for the bodies of logins. -/
theorem requests_conceal (s : Session) :
    s.conceal.requests = s.requests.map Api.Request.conceal := by
  simp only [requests, conceal, List.filterMap_map, List.map_filterMap]
  congr 1
  funext e
  cases e <;> rfl

/-- **What twins agree on**: the log, all that happens to the document, what the gestures are bound
to, the pager, the timers, and all requests that were sent or that wait, but for the bodies of
logins.

**Proof sketch.** Twins are equal once secrets are concealed (`Twins.conceal_eq`). Concealing keeps
the log, the document, the bindings, the pages and the timers, so these are equal. Of a request it
takes the body of a login only, so that requests with the same remainder match. -/
theorem Twins.agree {s t : Session} (h : Twins s t) :
    t.events = s.events ∧ t.scenes = s.scenes ∧ t.bindings = s.bindings ∧
      (t.current = s.current ∧ t.pages = s.pages ∧ t.isAlive = s.isAlive ∧
        t.describePager = s.describePager) ∧
      (t.timers = s.timers ∧ t.callbacks = s.callbacks) ∧
      List.Forall₂ Api.Request.Matches s.requests t.requests ∧
      List.Forall₂ (fun e f => e.1.Matches f.1 ∧ f.2 = e.2) s.wire.waiting t.wire.waiting := by
  have hst := h.conceal_eq
  refine ⟨?_, ?_, ?_, ⟨?_, ?_, ?_, ?_⟩, ⟨?_, ?_⟩, ?_, ?_⟩
  · rw [← events_conceal, ← hst, events_conceal]
  · rw [← scenes_conceal, ← hst, scenes_conceal]
  · exact (congrArg bindings hst.symm :)
  · exact (congrArg current hst.symm :)
  · exact (congrArg pages hst.symm :)
  · exact (congrArg isAlive hst.symm :)
  · exact (congrArg describePager hst.symm :)
  · exact (congrArg timers hst.symm :)
  · exact (congrArg callbacks hst.symm :)
  · have hrequests := congrArg requests hst
    rw [requests_conceal, requests_conceal] at hrequests
    exact (forall₂_of_map_eq hrequests).imp fun q r hqr => Api.Request.matches_of_conceal hqr
  · have hwaiting : s.wire.waiting.map (fun e => (e.1.conceal, e.2)) =
        t.wire.waiting.map (fun e => (e.1.conceal, e.2)) :=
      (congrArg (fun u : Session => u.wire.waiting) hst :)
    refine (forall₂_of_map_eq hwaiting).imp fun e f hef => ?_
    obtain ⟨hrequest, hpurpose⟩ := Prod.mk.inj hef
    exact ⟨Api.Request.matches_of_conceal hrequest, hpurpose.symm⟩

/-- A session by the defaults in which a user logs in with a password. -/
def loginRun (cookies password : String) : Session :=
  let s := (start standardServices 0 cookies []).bootstrap
  let s := s.apply (.reply (.response ⟨200, "\x7b\"auth_type\":\"Userpass\"\x7d"⟩))
  (s.apply (.type ⟨"admin", password⟩)).apply (.gesture .loginSubmit)

/-- With another password and other cookies the same is logged, and the same is shown.

**Proof sketch.** The two runs are twins step by step: neither has a token when the first page is
chosen, and the passwords differ only in what is typed. -/
theorem agree_loginRun :
    (loginRun "theme=dark" "sesame").events = (loginRun "" "hunter2").events ∧
      (loginRun "theme=dark" "sesame").scenes = (loginRun "" "hunter2").scenes := by
  have hstart : Twins (start standardServices 0 "" []).bootstrap
      (start standardServices 0 "theme=dark" []).bootstrap :=
    .begin standardServices 0 "" "theme=dark" [] fun h => absurd rfl h
  have htoken : (start standardServices 0 "" []).bootstrap.token.isSome =
      (start standardServices 0 "theme=dark" []).bootstrap.token.isSome := by
    have hjar : ∀ cookies, (start standardServices 0 cookies []).bootstrap.token =
        Cookie.token cookies Cookie.sessionName := by
      intro cookies
      rw [bootstrap, run_cons]
      exact congrArg token (run_nil _)
    rw [hjar, hjar]
    decide
  have hfirst := hstart.step (.reply (.response ⟨200, "\x7b\"auth_type\":\"Userpass\"\x7d"⟩)) _ rfl
    fun _ _ _ => htoken
  have htyped := hfirst.step (.type ⟨"admin", "hunter2"⟩) (.type ⟨"admin", "sesame"⟩) rfl nofun
  have hsent := htyped.step (.gesture .loginSubmit) (.gesture .loginSubmit) rfl nofun
  exact ⟨(Twins.agree hsent).1, (Twins.agree hsent).2.1⟩

end Session

end CertDashboard
