import CertDashboard.Session.Task

set_option autoImplicit false
set_option relaxedAutoImplicit false

/-!
# Running a session

## Main definitions

* `CertDashboard.Session.run` — tasks, and all that they leave to do.
* `CertDashboard.Session.Action` — what may be done to a session from outside.
* `CertDashboard.Session.apply` — one action, with all that it leads to.

## Main results

* `CertDashboard.Session.effort_perform_lt` — a task leaves less to do than it was.
-/

namespace CertDashboard

namespace Session

/-! ## Effort

Sending a request may use up a reply, and following the plans of a probe uses them up; nothing else
touches either. -/

/-- An effect uses up nothing. -/
theorem reserve_emit (e : Effect) (s : Session) : (s.emit e).reserve = s.reserve := rfl

/-- Cancelling a timer uses up nothing. -/
theorem reserve_cancelTimer (p : Nat) (s : Session) : (s.cancelTimer p).reserve = s.reserve := by
  unfold cancelTimer
  split <;> rfl

/-- Setting a timer uses up nothing. -/
theorem reserve_schedule (p : Nat) (s : Session) : (s.schedule p).reserve = s.reserve :=
  reserve_cancelTimer p s

/-- Rendering a dashboard uses up nothing. -/
theorem reserve_renderDashboard (p : Nat) (s : Session) :
    (s.renderDashboard p).reserve = s.reserve := by
  unfold renderDashboard
  split
  · rfl
  · split <;> rfl

/-- Changing the horizon uses up nothing. -/
theorem reserve_toggle (p : Nat) (s : Session) : (s.toggle p).reserve = s.reserve := by
  unfold toggle
  split
  · rfl
  · exact reserve_renderDashboard _ _

/-- Giving a page a context uses up nothing. -/
theorem reserve_giveContext (p : Nat) (s : Session) : (s.giveContext p).reserve = s.reserve := by
  unfold giveContext
  dsimp only
  split <;> rfl

/-- Tearing a page down uses up nothing. -/
theorem reserve_teardown (p : Nat) (s : Session) : (s.teardown p).reserve = s.reserve := by
  unfold teardown
  split
  · rfl
  · dsimp only
    split
    · rfl
    · exact reserve_cancelTimer p (s.modifyPage p _)
    all_goals rfl

/-- Leaving the current page uses up nothing. -/
theorem reserve_leave (s : Session) : s.leave.reserve = s.reserve := by
  unfold leave
  split
  · rfl
  · exact reserve_teardown _ _

/-- Making logging out possible, or not, uses up nothing. -/
theorem reserve_wireLogout (auth : Api.AuthMethod) (s : Session) :
    (s.wireLogout auth).reserve = s.reserve := by
  cases auth <;> rfl

/-- Logging several events uses up nothing. -/
theorem reserve_foldl_log (events : List Log.Event) (s : Session) :
    (events.foldl (fun s e => s.log e) s).reserve = s.reserve := by
  induction events generalizing s with
  | nil => rfl
  | cons e events ih => exact ih (s.log e)

/-- What is left to do after a task: the effort of further tasks, and of what is still unused. -/
def remaining (r : Session × List Task) : Nat :=
  r.1.reserve + effort r.2

/-- The efforts of tasks add up. -/
theorem effort_append (ts us : List Task) : effort (ts ++ us) = effort ts + effort us := by
  induction ts with
  | nil => exact (Nat.zero_add _).symm
  | cons t ts ih => rw [List.cons_append, effort, effort, ih, Nat.add_assoc]

/-- Initializing a page leaves one request, or the plans of a probe. -/
theorem remaining_activate (p : Nat) (s : Session) :
    remaining (s.activate p) ≤ s.reserve + 1 := by
  unfold activate
  split
  · exact Nat.le_add_right _ _
  · split
    · exact Nat.le_add_right _ _
    · exact Nat.le_refl _
    · exact Nat.le_add_right _ _
    · exact Nat.le_add_right _ _
    · exact Nat.le_refl _

/-- Displaying a page leaves no more than initializing it does. -/
theorem remaining_display (p : Nat) (page : Page) (s : Session) :
    remaining (s.display p page) ≤ s.reserve + 1 := by
  unfold display
  refine Nat.le_trans (remaining_activate _ _) (Nat.le_of_eq ?_)
  rw [reserve_emit, reserve_giveContext]
  exact congrArg (· + 1) (reserve_leave _)

/-- The answer of the first request leaves one display and the announcement. -/
theorem remaining_settleFirst (r : Except Api.Error Api.AuthMethod) (s : Session) :
    remaining (s.settleFirst r) ≤ s.reserve + 3 := by
  unfold settleFirst
  split
  · exact Nat.le_add_right _ _
  · split
    · exact Nat.le_of_eq (congrArg (· + 3) (reserve_wireLogout _ s))
    · exact Nat.le_add_right _ _

/-- The answer of a login leaves one display at most. -/
theorem remaining_settleLogin (r : Except Api.Error Unit) (s : Session) :
    remaining (s.settleLogin r) ≤ s.reserve + 3 := by
  unfold settleLogin
  split
  · exact Nat.le_succ _
  · split <;> exact Nat.le_succ _

/-- The answer of a refresh leaves one display at most. -/
theorem remaining_settleRefresh (p : Nat) (r : Except Api.Error (List Certificate)) (s : Session) :
    remaining (s.settleRefresh p r) ≤ s.reserve + 3 := by
  unfold settleRefresh
  split
  · refine Nat.le_trans (Nat.le_of_eq ?_) (Nat.le_add_right _ 3)
    exact (reserve_schedule p _).trans (reserve_renderDashboard p _)
  · split <;> exact Nat.le_succ _

/-- Whatever a request was for, its reply leaves less than its own effort. -/
theorem remaining_settle (purpose : Purpose) (request : Api.Request) (reply : Api.Reply)
    (s : Session) : remaining (s.settle purpose request reply) ≤ s.reserve + 3 := by
  have hlog := reserve_foldl_log (request.replyEvents reply) s
  unfold settle
  dsimp only
  split
  · exact hlog ▸ remaining_settleFirst _ _
  · split
    · exact hlog ▸ remaining_settleLogin _ _
    · exact Nat.le_trans (Nat.le_of_eq hlog) (Nat.le_add_right _ _)
  · split
    · exact hlog ▸ remaining_settleRefresh _ _ _
    · exact Nat.le_trans (Nat.le_of_eq hlog) (Nat.le_add_right _ _)

/-- A request leaves its reply only if one was in store, which it then uses up. -/
theorem remaining_send (purpose : Purpose) (call : Api.Call) (s : Session) :
    remaining (s.send purpose call) ≤ s.reserve := by
  unfold send
  dsimp only
  split
  · exact Nat.le_refl _
  · next reply script h =>
    have h : s.script = reply :: script := h
    simp only [remaining, reserve, effort, emit, log, Task.effort, h, List.length_cons]
    omega

/-- A timer that is up leaves one request at most. -/
theorem remaining_tick (n : Nat) (s : Session) : remaining (s.tick n) ≤ s.reserve + 1 := by
  unfold tick
  split
  · exact Nat.le_add_right _ _
  · split
    · exact Nat.le_add_right _ _
    · dsimp only
      split
      · exact Nat.le_refl _
      · exact Nat.le_add_right _ _

/-- A gesture leaves one request or one display at most. -/
theorem remaining_handle (handler : Handler) (s : Session) :
    remaining (s.handle handler) ≤ s.reserve + 2 := by
  unfold handle
  split
  · unfold submit
    split
    · exact Nat.le_succ _
    · exact Nat.le_add_right _ _
  · exact Nat.le_trans (Nat.le_of_eq (reserve_toggle _ s)) (Nat.le_add_right _ _)
  · exact Nat.le_refl _

/-- The effort of displaying pages is twice their number. -/
theorem effort_map_display (ps : List Nat) : effort (ps.map .display) = 2 * ps.length := by
  induction ps with
  | nil => rfl
  | cons p ps ih =>
    simp only [List.map_cons, effort, Task.effort, List.length_cons, ih]
    omega

/-- The plans of a probe and all others are the plans. -/
theorem length_plansOf (p : Nat) (s : Session) :
    (s.dropPlans p).plans.length + (s.plansOf p).length = s.plans.length := by
  simp only [dropPlans, plansOf, List.length_map]
  induction s.plans with
  | nil => rfl
  | cons plan plans ih =>
    by_cases h : plan.1 = p
    · simp only [h, bne_self_eq_false, beq_self_eq_true, List.filter_cons_of_pos,
        Bool.false_eq_true, not_false_eq_true, List.filter_cons_of_neg, List.length_cons]
      omega
    · have hb : (plan.1 == p) = false := by simpa using h
      simp only [List.filter_cons, bne, hb, Bool.not_false, if_true, Bool.false_eq_true, if_false,
        List.length_cons] at ih ⊢
      omega

/-- **A task leaves less to do than it was.**

**Proof sketch.** By the kinds of tasks. A display that happens and the four handlers have their
bounds (`remaining_display`, `remaining_send`, `remaining_settle`, `remaining_tick`,
`remaining_handle`). A display that does not happen, and an announcement, only use up themselves.
What follows a display takes its plans out of the reserve, and puts no more of them on the stack
than these (`length_plansOf`). -/
theorem effort_perform_lt (t : Task) (s : Session) :
    remaining (s.perform t) < s.reserve + t.effort := by
  cases t with
  | display p =>
    simp only [perform, Task.effort]
    split
    · exact Nat.lt_add_of_pos_right (by decide)
    · split
      · exact Nat.lt_succ_of_le (remaining_display _ _ _)
      · exact Nat.lt_add_of_pos_right (by decide)
  | follow p isDisplayed =>
    have hlen := length_plansOf p s
    cases isDisplayed with
    | true =>
      simp only [perform, Task.effort, remaining, if_true, effort_map_display, reserve]
      have hscript : (s.dropPlans p).script = s.script := rfl
      rw [hscript]
      omega
    | false =>
      simp only [perform, Task.effort, remaining, Bool.false_eq_true, if_false, reserve, effort]
      have hscript : (s.dropPlans p).script = s.script := rfl
      rw [hscript]
      omega
  | send purpose call => exact Nat.lt_succ_of_le (remaining_send purpose call s)
  | settle purpose request reply =>
    exact Nat.lt_succ_of_le (remaining_settle purpose request reply s)
  | tick n => exact Nat.lt_succ_of_le (remaining_tick n s)
  | handle handler => exact Nat.lt_succ_of_le (remaining_handle handler s)
  | announce auth => exact Nat.lt_succ_self _

/-! ## Running -/

/-- **Tasks, and all that they leave to do.** What a task leaves comes before the tasks that were
due already. -/
def run (tasks : List Task) (s : Session) : Session :=
  match tasks with
  | [] => s
  | t :: rest => run ((s.perform t).2 ++ rest) (s.perform t).1
  termination_by s.reserve + effort tasks
  decreasing_by
    have h := effort_perform_lt t s
    simp only [remaining] at h
    rw [effort_append, effort]
    omega

/-- No tasks, no change. -/
@[simp] theorem run_nil (s : Session) : s.run [] = s := by
  rw [run]

/-- The first task is performed, and what it leaves comes before the others. -/
theorem run_cons (t : Task) (rest : List Task) (s : Session) :
    s.run (t :: rest) = (s.perform t).1.run ((s.perform t).2 ++ rest) := by
  rw [run]

/-- Tasks one after another. -/
theorem run_append (ts us : List Task) (s : Session) : s.run (ts ++ us) = (s.run ts).run us := by
  induction h : s.reserve + effort ts using Nat.strongRecOn generalizing ts s with
  | _ n ih =>
    cases ts with
    | nil => simp
    | cons t rest =>
      have hlt := effort_perform_lt t s
      simp only [remaining] at hlt
      rw [effort] at h
      rw [List.cons_append, run_cons, run_cons, ← List.append_assoc]
      refine ih _ ?_ _ _ rfl
      rw [effort_append]
      omega

/-! ## Actions -/

/-- **What may be done to a session from outside.** Pages are named by their place among those that
are kept. -/
inductive Action where
  /-- Makes a page and keeps it; a probe may plan to display pages that are kept. -/
  | keep (body : PageBody) (plans : List Nat)
  /-- Makes a page and displays it. -/
  | present (body : PageBody) (plans : List Nat)
  /-- Keeps the page that is current, whoever made it. -/
  | hold
  /-- Displays a page that is kept. -/
  | display (place : Nat)
  /-- Initializes a page that is kept. -/
  | activate (place : Nat)
  /-- Tears a page down that is kept. -/
  | teardown (place : Nat)
  /-- Gives a page that is kept a context. -/
  | giveContext (place : Nat)
  /-- Keeps a page no longer. -/
  | drop (place : Nat)
  /-- Ends the session; pages are held by it no longer. -/
  | close
  /-- Types into the login form. -/
  | type (credentials : Api.Credentials)
  /-- Makes a gesture. -/
  | gesture (gesture : Gesture)
  /-- Calls a handler that was bound once. -/
  | replay (n : Nat)
  /-- The reply to the oldest request that waits. -/
  | reply (reply : Api.Reply)
  /-- Further replies to requests that then have not to wait. -/
  | script (replies : List Api.Reply)
  /-- All timers that are due are up. -/
  | elapse
  /-- A timer is up, due or not. -/
  | fire (n : Nat)
  /-- Sets the clock. -/
  | setClock (now : Int64)
  /-- Replaces the cookies. -/
  | setCookies (cookies : String)

/-- The page at a place among those that are kept. -/
def heldAt (place : Nat) (s : Session) : Option Nat :=
  (s.held[place]?).join

/-- A page is made, with the pages that it plans to display. -/
def make (body : PageBody) (plans : List Nat) (s : Session) : Nat × Session :=
  let targets := plans.filterMap fun place => s.heldAt place
  let (p, s) := s.addPage (.fresh body)
  (p, { s with plans := s.plans ++ targets.map fun q => (p, q) })

/-- The tasks of an action, and the state in which they are started. -/
def begin (action : Action) (s : Session) : Session × List Task :=
  match action with
  | .keep body plans =>
    let (p, s) := s.make body plans
    ({ s with held := s.held ++ [some p] }, [])
  | .present body plans =>
    let (p, s) := s.make body plans
    (s, [.display p])
  | .hold => ({ s with held := s.held ++ [s.current] }, [])
  | .display place => (s, (s.heldAt place).toList.map .display)
  | .activate place =>
    match s.heldAt place with
    | some p => s.activate p
    | none => (s, [])
  | .teardown place => ((s.heldAt place).elim s fun p => s.teardown p, [])
  | .giveContext place => ((s.heldAt place).elim s fun p => s.giveContext p, [])
  | .drop place => ({ s with held := s.held.set place none }, [])
  | .close => ({ s with isAlive := false, current := none }, [])
  | .type credentials => ({ s with form := credentials }, [])
  | .gesture gesture => (s, (s.bindings gesture).toList.map .handle)
  | .replay n => (s, (s.handlers[n]?).toList.map .handle)
  | .reply reply =>
    match s.wire.pop? with
    | none => (s, [])
    | some ((request, purpose), wire) =>
      ({ s with wire := wire }, [.settle purpose request reply])
  | .script replies => ({ s with script := s.script ++ replies }, [])
  | .elapse => ({ s with timers := [] }, s.timers.map fun t => .tick (t.number - 1))
  | .fire n => (s, [.tick n])
  | .setClock now => ({ s with now := now }, [])
  | .setCookies cookies => ({ s with jar := ⟨cookies⟩ }, [])

/-- **One action, with all that it leads to.** -/
def apply (action : Action) (s : Session) : Session :=
  let (s, tasks) := s.begin action
  s.run tasks

/-- The version of the program. -/
def version : String := "0.1.0"

/-- **Asks how users prove who they are**, to choose the first page by the answer. -/
def bootstrap (s : Session) : Session :=
  (s.log (.started version)).run [.send .firstPage .authMethod]

end Session

end CertDashboard
