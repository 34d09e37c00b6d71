import CertDashboard.Proofs.Session.Aside
import CertDashboard.Proofs.Session.Outcome
import Mathlib.Data.List.Chain

set_option autoImplicit false
set_option relaxedAutoImplicit false

/-!
# What the log tells of a session

Two things can be read off the log alone: the requests that were sent, and the way that led to the
page that is current. A line tells of every request as it is handed over, and a line tells of every
display, with the kind of page that is left and the kind of page that is entered.

## Main definitions

* `CertDashboard.Session.lines` — the log lines of a stage and an action.
* `CertDashboard.Session.displays` — the displays that the log tells of.
* `CertDashboard.Session.IsWay` — displays that follow one another and lead to a kind of page.
* `CertDashboard.Session.Arises` — the states of any session, whatever happens to it.
* `CertDashboard.Session.Stays` — a change that displays no page.

## Main results

* `CertDashboard.Session.Stays.of_aside` — an aside displays no page.
* `CertDashboard.Session.stays_perform` — what a task does displays no page, unless the task is
  there to display one.
* `CertDashboard.Session.Told.perform`, `CertDashboard.Session.Told.run` — one task and all tasks
  keep the log true.
* `CertDashboard.Session.Arises.log_tells` — what the log tells, in all states of any session.

## Design

A page is left before the next one is current, and in between no page is. So the way is not kept by
the parts of a display, but only by a display as a whole; everything else changes neither the way
nor the page, and is a change that stays.

Nothing is asked about the session but that pages can be displayed in it. Replies may be there
before their request, pages may display others, and pages may be torn down and initialized by hand.
-/

namespace CertDashboard

/-! ## Log lines -/

/-- **Whether an event is logged at a stage with an action.** -/
def Log.Event.IsOf (stage action : String) (event : Log.Event) : Prop :=
  event.fields.lookup "stage" = some (.text stage) ∧
    event.fields.lookup "action" = some (.text action)

/-- It can be decided at which stage and with which action an event is logged. -/
instance (stage action : String) (event : Log.Event) : Decidable (event.IsOf stage action) :=
  inferInstanceAs (Decidable (_ ∧ _))

/-- The request that an event tells of, by its method and its path. -/
def Log.Event.request? : Log.Event → Option (Api.Method × String)
  | .request method path => some (method, path)
  | _ => none

/-- The display that an event tells of, by the kinds of the page that is left, if one is, and of the
page that is entered. -/
def Log.Event.display? : Log.Event → Option (Option PageKind × PageKind)
  | .displayed leaving entering => some (leaving, entering)
  | _ => none

/-- The line about a request. -/
def requestLine (request : Api.Method × String) : List (String × Log.Value) :=
  [("stage", .text "client"), ("action", .text "request"), ("method", .text request.1.name),
    ("path", .text request.2)]

/-- The line about a display. -/
def displayLine (display : Option PageKind × PageKind) : List (String × Log.Value) :=
  [("stage", .text "pager"), ("action", .text "display"),
    ("from", .text (Log.Event.kindText display.1)), ("to", .text display.2.name)]

namespace Session

/-- **The log lines of a stage and an action**, in order. -/
def lines (stage action : String) (s : Session) : List (List (String × Log.Value)) :=
  (s.events.filter fun event => decide (event.IsOf stage action)).map Log.Event.fields

/-- **The displays that the log tells of**, in order. -/
def displays (s : Session) : List (Option PageKind × PageKind) :=
  s.events.filterMap Log.Event.display?

/-- The lines of a stage and an action tell of what a reader takes from the log, if there is such a
line for whatever it takes, and for nothing else. -/
theorem lines_eq {stage action : String} {α : Type} {read : Log.Event → Option α}
    {line : α → List (String × Log.Value)}
    (h : ∀ event, (if event.IsOf stage action then some event.fields else none) =
      (read event).map line) (s : Session) :
    s.lines stage action = (s.events.filterMap read).map line := by
  rw [lines, ← List.filterMap_eq_filter, List.map_filterMap, List.map_filterMap]
  congr 1
  funext event
  rw [← h event, Option.guard]
  by_cases hof : event.IsOf stage action <;> simp [hof]

/-- **Requests are told of by the lines of the client about requests**, and by no others. -/
theorem lines_request (s : Session) : s.lines "client" "request" =
    (s.events.filterMap Log.Event.request?).map requestLine := by
  refine s.lines_eq fun event => ?_
  cases event with
  | noContext kind => cases kind <;> rfl
  | _ => rfl

/-- **Displays are told of by the lines of the pager about displays**, and by no others. -/
theorem lines_display (s : Session) : s.lines "pager" "display" = s.displays.map displayLine := by
  refine s.lines_eq fun event => ?_
  cases event with
  | noContext kind => cases kind <;> rfl
  | _ => rfl

/-! ## Ways -/

/-- **Displays that follow one another and lead to a kind of page**: the first one leaves no page,
and each later one leaves a page of the kind that was entered before. -/
structure IsWay (displays : List (Option PageKind × PageKind)) (goal : Option PageKind) : Prop where
  /-- The first one leaves no page. -/
  first : ∀ d ∈ displays.head?, d.1 = none
  /-- Each later one leaves what was entered before. -/
  next : displays.IsChain fun d d' => d'.1 = some d.2
  /-- The last one enters a page of the kind that they lead to. -/
  last : displays.getLast?.map Prod.snd = goal

/-- No display leads to no page. -/
theorem isWay_nil : IsWay [] none :=
  ⟨by simp, .nil, rfl⟩

/-- **One more display** that leaves what the others lead to.

**Proof sketch.** The new display comes behind the last one and leaves the page that this one
entered, which is the goal of the way. If there was none, then the goal is none, and the new display
is the first. -/
theorem IsWay.concat {displays : List (Option PageKind × PageKind)} {goal : Option PageKind}
    (h : IsWay displays goal) (entering : PageKind) :
    IsWay (displays ++ [(goal, entering)]) (some entering) := by
  refine ⟨?_, List.isChain_append.mpr ⟨h.next, .singleton _, ?_⟩, by simp⟩
  · rw [List.head?_append]
    cases hhead : displays.head? with
    | none =>
      obtain rfl := List.head?_eq_none_iff.mp hhead
      have hgoal : none = goal := h.last
      simp [← hgoal]
    | some d => simpa using h.first d hhead
  · intro d hd d' hd'
    obtain rfl : (goal, entering) = d' := by simpa using hd'
    rw [Option.mem_def] at hd
    rw [← h.last, hd]
    rfl

/-! ## Any session -/

/-- **The states of any session**, whatever happens to it. -/
inductive Arises : Session → Prop where
  /-- It begins with no page. -/
  | blank (services : Services) (now : Int64) (cookies : String) (script : List Api.Reply) :
    Arises (start services now cookies script)
  /-- It begins with the question how users prove who they are. -/
  | asking (services : Services) (now : Int64) (cookies : String) (script : List Api.Reply) :
    Arises (start services now cookies script).bootstrap
  /-- The state behind one more action. -/
  | step {s : Session} (action : Action) : Arises s → Arises (s.apply action)

/-- A live session is one. -/
theorem Reachable.arises {s : Session} (h : Reachable s) : Arises s := by
  induction h with
  | begin hs =>
    cases hs with
    | blank services now cookies => exact .blank services now cookies []
    | asking services now cookies => exact .asking services now cookies []
  | step action _ _ ih => exact .step action ih

/-! ## Effects -/

/-- The request that an effect logs, by its method and its path. -/
def Effect.logged? : Effect → Option (Api.Method × String)
  | .log event => event.request?
  | _ => none

/-- The request that an effect hands over, by its method and its path. -/
def Effect.handed? : Effect → Option (Api.Method × String)
  | .sent request _ => some (request.method, request.url.path)
  | _ => none

/-- The display that an effect logs. -/
def Effect.display? : Effect → Option (Option PageKind × PageKind)
  | .log event => event.display?
  | _ => none

/-- The requests that are logged, in the trace. -/
theorem logged_eq (s : Session) :
    s.events.filterMap Log.Event.request? = s.trace.filterMap Effect.logged? := by
  rw [events, List.filterMap_filterMap]
  congr 1
  funext e
  cases e <;> rfl

/-- The requests that are handed over, in the trace. -/
theorem handed_eq (s : Session) : s.requests.map (fun r => (r.method, r.url.path)) =
    s.trace.filterMap Effect.handed? := by
  rw [requests, List.map_filterMap]
  congr 1
  funext e
  cases e <;> rfl

/-- The displays that are logged, in the trace. -/
theorem displays_eq (s : Session) : s.displays = s.trace.filterMap Effect.display? := by
  rw [displays, events, List.filterMap_filterMap]
  congr 1
  funext e
  cases e <;> rfl

/-! ## Changes that display no page -/

/-- The kinds of all pages. -/
def kinds (s : Session) : List PageKind :=
  s.pages.map Page.kind

/-- The kind of the current page is one of them. -/
theorem currentKind_eq (s : Session) : s.currentKind = s.current.bind fun p => s.kinds[p]? := by
  unfold currentKind kinds
  cases s.current <;> simp

/-- An aside tells neither of a request nor of a display, and hands nothing over. -/
theorem Effect.IsAside.tells_nothing {e : Effect} (h : e.IsAside) :
    e.logged? = none ∧ e.handed? = none ∧ e.display? = none := by
  cases e with
  | log event =>
    cases event with
    | request method path => exact h.elim
    | displayed leaving entering => exact h.elim
    | _ => exact ⟨rfl, rfl, rfl⟩
  | sent request waits => exact h.elim
  | _ => exact ⟨rfl, rfl, rfl⟩

/-- **A change that displays no page**: the current page stays, no page changes its kind, and
whatever is handed over is logged. -/
structure Stays (s t : Session) : Prop where
  /-- Pages can be displayed if they could. -/
  isAlive : t.isAlive = s.isAlive
  /-- The current page stays. -/
  current : t.current = s.current
  /-- Pages may have been made. -/
  kinds : s.kinds <+: t.kinds
  /-- The effects. -/
  trace : ∃ es, t.trace = s.trace ++ es ∧
    es.filterMap Effect.logged? = es.filterMap Effect.handed? ∧ es.filterMap Effect.display? = []

namespace Stays

variable {s t u : Session}

/-- A change without effects that leaves the pages alone. -/
theorem of_trace (htrace : t.trace = s.trace) (hpages : t.pages = s.pages)
    (hcurrent : t.current = s.current) (halive : t.isAlive = s.isAlive) : Stays s t := by
  have hkinds : t.kinds = s.kinds := congrArg (List.map Page.kind) hpages
  exact ⟨halive, hcurrent, hkinds ▸ List.prefix_rfl, [], by simp [htrace], rfl, rfl⟩

/-- An aside displays no page. -/
theorem of_aside (h : Aside s t) : Stays s t := by
  obtain ⟨es, htrace, hes⟩ := h.trace
  have hkinds : t.kinds = s.kinds := by
    have hfaces : ∀ u : Session, u.backdrop.faces.map Page.kind = u.kinds := fun u => by
      rw [backdrop, List.map_map, Session.kinds]
      exact congrArg (u.pages.map ·) (funext Page.kind_face)
    rw [← hfaces s, ← hfaces t, h.backdrop]
  refine ⟨congrArg Backdrop.isAlive h.backdrop, congrArg Backdrop.current h.backdrop,
    hkinds ▸ List.prefix_rfl, es, htrace, ?_,
    List.filterMap_eq_nil_iff.mpr fun e he => (hes e he).tells_nothing.2.2⟩
  rw [List.filterMap_eq_nil_iff.mpr fun e he => (hes e he).tells_nothing.1,
    List.filterMap_eq_nil_iff.mpr fun e he => (hes e he).tells_nothing.2.1]

/-- No change. -/
theorem refl (s : Session) : Stays s s :=
  of_trace rfl rfl rfl rfl

/-- Changes one after another. -/
theorem trans (h : Stays s t) (h' : Stays t u) : Stays s u := by
  obtain ⟨es, htrace, hlogged, hdisplays⟩ := h.trace
  obtain ⟨es', htrace', hlogged', hdisplays'⟩ := h'.trace
  refine ⟨h'.isAlive.trans h.isAlive, h'.current.trans h.current, h.kinds.trans h'.kinds,
    es ++ es', ?_, ?_, ?_⟩
  · rw [htrace', htrace, List.append_assoc]
  · rw [List.filterMap_append, List.filterMap_append, hlogged, hlogged']
  · rw [List.filterMap_append, hdisplays, hdisplays']
    rfl

/-- An effect that tells of nothing. -/
theorem emit {e : Effect} (hlogged : e.logged? = none) (hhanded : e.handed? = none)
    (hdisplay : e.display? = none) (s : Session) : Stays s (s.emit e) :=
  ⟨rfl, rfl, List.prefix_rfl, [e], rfl, by simp [hlogged, hhanded], by simp [hdisplay]⟩

/-- An event that is neither about a request nor about a display. -/
theorem log (event : Log.Event) (hrequest : event.request? = none)
    (hdisplay : event.display? = none) (s : Session) : Stays s (s.log event) :=
  emit (e := .log event) hrequest rfl hdisplay s

/-! ### Dashboards -/

/-- A dashboard that is rendered. -/
theorem renderDashboard (p : Nat) (s : Session) : Stays s (s.renderDashboard p) := by
  unfold Session.renderDashboard
  split
  · exact refl s
  · split
    · exact refl s
    · exact (emit (e := .render _ _) rfl rfl rfl s).trans (emit (e := .visible _ _) rfl rfl rfl _)

/-- A horizon that is changed. -/
theorem toggle (p : Nat) (s : Session) : Stays s (s.toggle p) := by
  unfold Session.toggle
  split
  · exact refl s
  · exact ((log (.horizonToggled _) rfl rfl s).trans (of_aside (.modifyDashboard p _ _))).trans
      (renderDashboard p _)

/-! ### The life of a page -/

/-- A page that is initialized. -/
theorem activate (p : Nat) (s : Session) : Stays s (s.activate p).1 := by
  have hactive := of_aside (.modifyPage p (f := fun page => { page with isActive := true })
    (fun _ => rfl) s)
  unfold Session.activate
  split
  · exact refl s
  · split
    · exact ((hactive.trans (emit (e := .render _ _) rfl rfl rfl _)).trans
        (of_aside (.bind _ _ _))).trans (emit (e := .visible _ _) rfl rfl rfl _)
    · exact ((hactive.trans (of_aside (.modifyDashboard p _ _))).trans
        (of_aside (.bind _ _ _))).trans (emit (e := .visible _ _) rfl rfl rfl _)
    · exact log (.noContext _) rfl rfl s
    · exact log (.noContext _) rfl rfl s
    · exact emit (e := .journal _ _) rfl rfl rfl s

/-- A page that is made. -/
theorem addPage (page : Page) (s : Session) : Stays s (s.addPage page).2 where
  isAlive := rfl
  current := rfl
  kinds := by
    rw [Session.kinds, Session.kinds, Session.addPage, List.map_append]
    exact List.prefix_append _ _
  trace := ⟨[], (List.append_nil _).symm, rfl, rfl⟩

/-! ### Replies -/

/-- What is logged about a reply. -/
theorem replied (request : Api.Request) (reply : Api.Reply) (s : Session) :
    Stays s ((request.replyEvents reply).foldl (fun s e => s.log e) s) := by
  unfold Api.Request.replyEvents
  split
  · exact refl s
  · exact log (.requestFailed _ _ _) rfl rfl s

/-- The answer of the first request: the page is left to be displayed. -/
theorem settleFirst (r : Except Api.Error Api.AuthMethod) (s : Session) :
    Stays s (s.settleFirst r).1 := by
  unfold Session.settleFirst
  split
  · exact (log (.authQueryFailed _) rfl rfl s).trans (emit (e := .ready _) rfl rfl rfl _)
  · next auth =>
    split
    · exact ((of_aside (.wireLogout auth s)).trans (log (.firstPage _ _ _) rfl rfl _)).trans
        (addPage _ _)
    · exact log .pagerDropped rfl rfl s

/-- The reply to a login: the page is left to be displayed. -/
theorem settleLogin (r : Except Api.Error Unit) (s : Session) : Stays s (s.settleLogin r).1 := by
  unfold Session.settleLogin
  split
  · exact (log .loginSuccess rfl rfl s).trans (addPage _ _)
  · split
    · exact (log .loginRejected rfl rfl s).trans (addPage _ _)
    · exact (log (.loginFailed _) rfl rfl s).trans (addPage _ _)

/-- The reply to a refresh: the page is left to be displayed, if there is one. -/
theorem settleRefresh (p : Nat) (r : Except Api.Error (List Certificate)) (s : Session) :
    Stays s (s.settleRefresh p r).1 := by
  unfold Session.settleRefresh
  split
  · exact (((log (.refreshed _) rfl rfl s).trans (of_aside (.modifyDashboard p _ _))).trans
      (renderDashboard p _)).trans (of_aside (.schedule p _))
  · split
    · exact ((log .sessionExpired rfl rfl s).trans (of_aside (.clearToken _))).trans (addPage _ _)
    · exact (log (.refreshFailed _) rfl rfl s).trans (addPage _ _)

/-- A request that is settled by its reply. -/
theorem settle (purpose : Purpose) (request : Api.Request) (reply : Api.Reply) (s : Session) :
    Stays s (s.settle purpose request reply).1 := by
  have hreplied := replied request reply s
  unfold Session.settle
  dsimp only
  split
  · exact hreplied.trans (settleFirst _ _)
  · split
    · exact hreplied.trans (settleLogin _ _)
    · exact hreplied.trans (log .staleLogin rfl rfl _)
  · split
    · exact hreplied.trans (settleRefresh _ _ _)
    · exact hreplied.trans (log .staleRefresh rfl rfl _)

/-! ### Requests, timers and gestures -/

/-- **A request that is sent**: it is logged, and handed over. -/
theorem send (purpose : Purpose) (call : Api.Call) (s : Session) :
    Stays s (s.send purpose call).1 := by
  have hsent : ∀ waits, Stays s ((s.log (s.services.client.request call).sentEvent).emit
      (.sent (s.services.client.request call) waits)) := fun waits =>
    ⟨rfl, rfl, List.prefix_rfl, _, List.append_assoc _ [_] [_], rfl, rfl⟩
  unfold Session.send
  dsimp only
  split
  · exact (hsent true).trans (of_trace rfl rfl rfl rfl)
  · exact (hsent false).trans (of_trace rfl rfl rfl rfl)

/-- A timer that is up.

**Proof sketch.** A callback that was spent does nothing. Otherwise it is marked and the dashboard
loses its timer, whether or not it then asks again. -/
theorem tick (n : Nat) (s : Session) : Stays s (s.tick n).1 := by
  unfold Session.tick
  split
  · exact refl s
  · split
    · exact refl s
    · next callback _ _ =>
      have hspent : Stays s
          { s with callbacks := s.callbacks.modify n fun c => { c with isSpent := true } } :=
        of_trace rfl rfl rfl rfl
      have htimer := hspent.trans
        (of_aside (.modifyDashboard callback.page (fun d => { d with timer := none }) _))
      dsimp only
      split
      · exact htimer
      · exact htimer

/-- A handler that is called: the page is left to be displayed, if there is one. -/
theorem handle (handler : Handler) (s : Session) : Stays s (s.handle handler).1 := by
  cases handler with
  | submit p =>
    simp only [Session.handle, submit]
    split
    · have hform : Stays s { s with form := { s.form with password := "" } } :=
        of_trace rfl rfl rfl rfl
      exact (hform.trans (emit (e := .clearPassword) rfl rfl rfl _)).trans
        (log .loginAttempt rfl rfl _)
    · exact refl s
  | toggle p => exact toggle p s
  | logout =>
    exact ((log .logout rfl rfl s).trans (of_aside (.clearToken _))).trans (addPage _ _)

end Stays

/-- **What a task does displays no page**, unless the task is there to display one and pages can be
displayed.

**Proof sketch.** By the kinds of tasks, each of which has its lemma. A display in a session that
was ended is only logged as dropped. -/
theorem stays_perform {task : Task} {s : Session}
    (h : s.isAlive = true → ∀ p, task ≠ .display p) : Stays s (s.perform task).1 := by
  cases task with
  | display p =>
    have hdead : ¬ s.isAlive = true := fun halive => h halive p rfl
    simp only [perform]
    split
    · exact .refl s
    · rw [if_neg hdead]
      exact .log (.displayDropped _) rfl rfl s
  | follow p isDisplayed => exact .of_trace rfl rfl rfl rfl
  | send purpose call => exact .send purpose call s
  | settle purpose request reply => exact .settle purpose request reply s
  | tick n => exact .tick n s
  | handle handler => exact .handle handler s
  | announce auth => exact .emit (e := .ready _) rfl rfl rfl s

/-- **The start of an action displays no page**, unless it is the one with which the session ends.

**Proof sketch.** By the kinds of actions. Those on a held page do what the page does; a page that
is made is put behind the others, and all other actions touch no page. -/
theorem stays_begin {action : Action} (h : action ≠ .close) (s : Session) :
    Stays s (s.begin action).1 := by
  have hmake : ∀ (body : PageBody) (plans : List Nat), Stays s (s.make body plans).2 :=
    fun body plans => (Stays.addPage (.fresh body) s).trans (.of_trace rfl rfl rfl rfl)
  cases action with
  | keep body plans => exact (hmake body plans).trans (.of_trace rfl rfl rfl rfl)
  | present body plans => exact hmake body plans
  | activate place =>
    simp only [begin]
    cases s.heldAt place with
    | none => exact .refl s
    | some p => exact .activate p s
  | teardown place =>
    simp only [begin]
    cases s.heldAt place with
    | none => exact .refl s
    | some p => exact .of_aside (.teardown p s)
  | giveContext place =>
    simp only [begin]
    cases s.heldAt place with
    | none => exact .refl s
    | some p => exact .of_aside (.giveContext p s)
  | reply reply =>
    simp only [begin]
    split
    · exact .refl s
    · exact .of_trace rfl rfl rfl rfl
  | close => exact absurd rfl h
  | _ => exact .of_trace rfl rfl rfl rfl

/-! ## What the log tells -/

/-- **The log is true**: every request that was handed over is told of, and, as long as pages can be
displayed, so is the way to the current page, which is one. -/
structure Told (s : Session) : Prop where
  /-- The requests. -/
  requests : s.trace.filterMap Effect.logged? = s.trace.filterMap Effect.handed?
  /-- The way to the current page. -/
  way : s.isAlive = true → IsWay s.displays s.currentKind
  /-- The current page is one. -/
  page : s.isAlive = true → ∀ p, s.current = some p → p < s.kinds.length

namespace Told

variable {s t : Session}

/-- **A change that displays no page** keeps the log true.

**Proof sketch.** The new effects have as many lines about requests as requests, and no display. The
page that is current is the same one and of the same kind, since the kinds of pages are only added
to. -/
theorem stays (hs : s.Told) (h : Stays s t) : t.Told := by
  obtain ⟨es, htrace, hlogged, hdisplays⟩ := h.trace
  refine ⟨?_, fun halive => ?_, fun halive p hp => ?_⟩
  · rw [htrace, List.filterMap_append, List.filterMap_append, hs.requests, hlogged]
  · rw [h.isAlive] at halive
    have hkind : t.currentKind = s.currentKind := by
      rw [currentKind_eq, currentKind_eq, h.current]
      cases hcurrent : s.current with
      | none => rfl
      | some p =>
        have hlt := hs.page halive p hcurrent
        simp only [Option.bind_some]
        rw [List.prefix_iff_getElem?.mp h.kinds p hlt, List.getElem?_eq_getElem hlt]
    rw [hkind, displays_eq, htrace, List.filterMap_append, hdisplays, List.append_nil,
      ← displays_eq]
    exact hs.way halive
  · rw [h.isAlive] at halive
    rw [h.current] at hp
    exact Nat.lt_of_lt_of_le (hs.page halive p hp) h.kinds.length_le

/-- **A display** keeps the log true: it leaves the current page, and enters the page that is
current then.

**Proof sketch.** The display is its line, the leave and the entry, and neither of the latter
displays anything (`hleft`, `hentered`). So the trace grows by the line and by effects that tell of
their requests. The line leaves what was current and enters the page, which is current then, and so
the way gets one step longer (`IsWay.concat`). -/
theorem display (hs : s.Told) (halive : s.isAlive = true) {p : Nat} {page : Page}
    (hpage : s.pages[p]? = some page) : (s.display p page).1.Told := by
  -- The line comes first. Leaving and entering the page both stay, once the page that is current
  -- is set to what it is behind each of them.
  generalize hlog : s.log (.displayed s.currentKind page.kind) = logged
  have hleft : Stays { logged with current := none } logged.leave := by
    unfold leave
    split
    · next hnone => exact .of_trace rfl rfl hnone rfl
    · exact .of_aside (.teardown _ _)
  have hentered : Stays { logged.leave with current := some p } (s.display p page).1 := by
    rw [Session.display, hlog]
    exact ((Stays.of_aside (.giveContext p _)).trans
      (.emit (e := .visible _ _) rfl rfl rfl _)).trans (.activate p _)
  obtain ⟨es, htrace, hlogged, hdisplays⟩ := hleft.trace
  obtain ⟨es', htrace', hlogged', hdisplays'⟩ := hentered.trace
  have hwhole : (s.display p page).1.trace =
      s.trace ++ .log (.displayed s.currentKind page.kind) :: (es ++ es') := by
    rw [htrace']
    show logged.leave.trace ++ es' = _
    rw [htrace]
    subst hlog
    simp [log, emit]
  have hkinds : s.kinds <+: (s.display p page).1.kinds := by
    subst hlog
    exact hleft.kinds.trans hentered.kinds
  obtain ⟨hlt, hkind⟩ : ∃ h : p < s.kinds.length, s.kinds[p] = page.kind := by
    refine List.getElem?_eq_some_iff.mp ?_
    rw [kinds, List.getElem?_map, hpage, Option.map_some]
  refine ⟨?_, fun _ => ?_, fun _ q hq => ?_⟩
  · have hrest : (es ++ es').filterMap Effect.logged? = (es ++ es').filterMap Effect.handed? := by
      rw [List.filterMap_append, List.filterMap_append, hlogged, hlogged']
    rw [hwhole, List.filterMap_append, List.filterMap_append, hs.requests]
    exact congrArg _ hrest
  · have hnow : (s.display p page).1.currentKind = some page.kind := by
      rw [currentKind_eq, hentered.current]
      simp only [Option.bind_some]
      rw [List.prefix_iff_getElem?.mp hkinds p hlt, hkind]
    rw [hnow, displays_eq, hwhole, List.filterMap_append, ← displays_eq]
    simp only [Effect.display?, Log.Event.display?, List.filterMap_cons, List.filterMap_append,
      hdisplays, hdisplays', List.append_nil]
    exact (hs.way halive).concat page.kind
  · obtain rfl : p = q := Option.some_inj.mp (hentered.current.symm.trans hq)
    exact Nat.lt_of_lt_of_le hlt hkinds.length_le

/-- **One task** keeps the log true. -/
theorem perform (hs : s.Told) (task : Task) : (s.perform task).1.Told := by
  -- Only a display that finds a pager changes the page; every other task stays.
  by_cases hdisplay : s.isAlive = true ∧ ∃ p, task = .display p
  · obtain ⟨halive, p, rfl⟩ := hdisplay
    simp only [Session.perform]
    split
    · exact hs
    · next page hpage =>
      rw [if_pos halive]
      exact hs.display halive hpage
  · exact hs.stays (stays_perform fun halive p hp => hdisplay ⟨halive, p, hp⟩)

/-- **All tasks** keep the log true, with all that they leave to do. -/
theorem run (hs : s.Told) (tasks : List Task) : (s.run tasks).Told := by
  induction tasks, s using run.induct with
  | case1 s =>
    rw [run_nil]
    exact hs
  | case2 s task rest ih =>
    rw [run_cons]
    exact ih (hs.perform task)

/-- **An action** keeps the log true. -/
theorem apply (hs : s.Told) (action : Action) : (s.apply action).Told := by
  refine run ?_ _
  -- When the session ends no page is current any more, but nothing is said of the way then.
  by_cases hclose : action = .close
  · subst hclose
    exact ⟨hs.requests, nofun, nofun⟩
  · exact hs.stays (stays_begin hclose s)

end Told

/-- The log of any session is true. -/
theorem Arises.told {s : Session} (h : Arises s) : s.Told := by
  have hstart : ∀ services now cookies script, (start services now cookies script).Told :=
    fun _ _ _ _ => ⟨rfl, fun _ => isWay_nil, nofun⟩
  induction h with
  | blank services now cookies script => exact hstart services now cookies script
  | asking services now cookies script =>
    exact ((hstart services now cookies script).stays
      (.log (.started version) rfl rfl _)).run _
  | step action _ ih => exact ih.apply action

/-- **The log tells the session.** The lines of the client about requests tell of all requests that
were handed over, in order. As long as pages can be displayed, the lines of the pager about displays
tell the way to the current page: the first one leaves no page, each later one leaves a page of the
kind that was entered before, and the last one entered a page of the kind of the current one. There
is no such line if and only if no page is current.

**Proof sketch.** Every state that arises has a true log (`Arises.told`), by the step lemmas above.
The lines are its events as text, and the way of the displays is the chain; it is empty if and only
if it leads to no page. -/
theorem Arises.log_tells {s : Session} (h : Arises s) :
    s.lines "client" "request" =
        s.requests.map (fun r => requestLine (r.method, r.url.path)) ∧
      s.lines "pager" "display" = s.displays.map displayLine ∧
      (s.isAlive = true →
        (∀ d ∈ s.displays.head?, d.1 = none) ∧
        (s.displays.IsChain fun d d' => d'.1 = some d.2) ∧
        s.displays.getLast?.map Prod.snd = s.currentKind ∧
        (s.lines "pager" "display" = [] ↔ s.current = none)) := by
  have htold := h.told
  refine ⟨?_, s.lines_display, fun halive => ?_⟩
  · rw [lines_request, logged_eq, htold.requests, ← handed_eq, List.map_map]
    rfl
  · have hway := htold.way halive
    refine ⟨hway.first, hway.next, hway.last, ?_⟩
    rw [lines_display, List.map_eq_nil_iff, ← List.getLast?_eq_none_iff,
      ← Option.map_eq_none_iff (f := Prod.snd), hway.last, currentKind_eq]
    cases hcurrent : s.current with
    | none => simp
    | some p => simpa using htold.page halive p hcurrent

/-- A login form, and a dashboard after it: the log tells of the request for the inventory, and of
the way over the login form to the dashboard.

**Proof sketch.** Two pages are displayed in turn, which is computed. The theorem is applied to the
state behind them, and the lines are evaluated. -/
theorem log_tells_standardStart :
    let s := (standardStart.apply (.present (.login none) [])).apply
      (.present (.dashboard ⟨none, none, none⟩) [])
    s.isAlive = true ∧ s.lines "client" "request" = [requestLine (.get, "/v1/cache")] ∧
      s.lines "pager" "display" =
        [displayLine (none, .login), displayLine (some .login, .dashboard)] ∧
      s.displays.getLast?.map Prod.snd = s.currentKind := by
  intro s
  have hform : Reachable (standardStart.apply (.present (.login none) [])) :=
    .step _ ⟨trivial, rfl⟩ reachable_standardStart
  have heq : s = (standardStart.opening (.login none)).opening .dashboard := by
    show Session.apply _ _ = _
    have hlogin : (PageBody.login none).IsNew := trivial
    have hdashboard : (PageBody.dashboard ⟨none, none, none⟩).IsNew := rfl
    rw [hform.sound.apply_present hdashboard, reachable_standardStart.sound.apply_present hlogin]
    rfl
  have halive : s.isAlive = true := by rw [heq]; rfl
  have hs : Arises s := hform.arises.step _
  obtain ⟨hrequests, hdisplays, hway⟩ := hs.log_tells
  refine ⟨halive, hrequests.trans ?_, hdisplays.trans ?_, (hway halive).2.2.1⟩
  · rw [heq]
    rfl
  · rw [heq]
    rfl

end Session

end CertDashboard
