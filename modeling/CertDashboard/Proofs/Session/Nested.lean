import CertDashboard.Proofs.Session.Course
import Mathlib.Data.List.Nodup

set_option autoImplicit false
set_option relaxedAutoImplicit false

/-!
# Pages that display pages

A page may display others while it is initialized, and these may display others in turn. The session
that results is the one in which all these pages are displayed one after another, from outside, in
the order in which their displays begin.

## Main definitions

* `CertDashboard.Forest` — pages that are displayed, each with those that it displays itself.
* `CertDashboard.Forest.preorder` — all of them, in the order in which their displays begin.
* `CertDashboard.Forest.nested` — they are made and displayed, some of them by others.
* `CertDashboard.Forest.oneByOne` — they are made and displayed, all of them from outside.

## Main results

* `CertDashboard.Session.Flattens.forest` — what displaying the pages of a forest leads to, in any
  session that shows a page, or none yet, and has no timer.
* `CertDashboard.Session.nested_eq_oneByOne` — the two sessions are the same, and what they lead to.

## Design

A probe stands for any page that displays others as it is initialized: it has any kind, shows or
hides the menu, and records every call of its own. All else that such a page might do is its own
affair.

A page is made after those that it displays, for it has to name them, and before those that are
displayed after it. So the pages of a forest have the numbers from a number on, and the number of a
page comes next after those of the pages below it.

That a page is torn down while its initialization is still under way is a matter of the tasks that
are left to do. The plans of a session are the only trace of it, and the two sessions are compared
with the plans taken out.
-/

namespace CertDashboard

/-! ## Forests -/

/-- **Pages that are displayed**, in order, each with those that it displays itself as it is
initialized. Probes alone display others. -/
inductive Forest where
  /-- No page. -/
  | nil
  /-- A login form or a dashboard, and the pages after it. -/
  | own (body : PageBody) (isNew : body.IsNew) (siblings : Forest)
  /-- A probe with the pages that it displays, and the pages after it. -/
  | probe (name : String) (kind : PageKind) (hidesMenu : Bool) (children siblings : Forest)

/-- **How a page of a forest is made.** -/
structure Planned where
  /-- Its number. -/
  number : Nat
  /-- What it is. -/
  body : PageBody
  /-- The numbers of the pages that it displays. -/
  displays : List Nat

namespace Forest

/-- The number of pages. -/
def size : Forest → Nat
  | nil => 0
  | own _ _ siblings => 1 + siblings.size
  | probe _ _ _ children siblings => children.size + 1 + siblings.size

/-- **All pages, in the order in which their displays begin.** -/
def preorder : Forest → List PageBody
  | nil => []
  | own body _ siblings => body :: siblings.preorder
  | probe name kind hidesMenu children siblings =>
    .probe name kind hidesMenu :: (children.preorder ++ siblings.preorder)

/-- The numbers of the pages that no page of the forest displays. -/
def tops : Forest → Nat → List Nat
  | nil, _ => []
  | own _ _ siblings, n => n :: siblings.tops (n + 1)
  | probe _ _ _ children siblings, n => (n + children.size) :: siblings.tops (n + children.size + 1)

/-- All pages with their numbers, in the order in which their displays begin. -/
def visits : Forest → Nat → List (Nat × PageBody)
  | nil, _ => []
  | own body _ siblings, n => (n, body) :: siblings.visits (n + 1)
  | probe name kind hidesMenu children siblings, n =>
    (n + children.size, .probe name kind hidesMenu) ::
      (children.visits n ++ siblings.visits (n + children.size + 1))

/-- All pages, in the order in which they are made. -/
def planned : Forest → Nat → List Planned
  | nil, _ => []
  | own body _ siblings, n => ⟨n, body, []⟩ :: siblings.planned (n + 1)
  | probe name kind hidesMenu children siblings, n =>
    children.planned n ++
      ⟨n + children.size, .probe name kind hidesMenu, children.tops n⟩ ::
        siblings.planned (n + children.size + 1)

/-- **The pages are made and displayed, some of them by others.** -/
def nested (f : Forest) : List Session.Action :=
  (f.planned 0).map (fun e => .keep e.body e.displays) ++ (f.tops 0).map .display

/-- **The pages are made and displayed, all of them from outside**, in the order in which their
displays begin. -/
def oneByOne (f : Forest) : List Session.Action :=
  (f.planned 0).map (fun e => .keep e.body []) ++ (f.visits 0).map fun v => .display v.1

/-- Whether a dashboard is among the pages. -/
def Asks (f : Forest) : Prop :=
  ∃ body ∈ f.preorder, body.Asks

/-- The pages that are displayed are those of the forest. -/
theorem map_visits (f : Forest) (n : Nat) : (f.visits n).map Prod.snd = f.preorder := by
  induction f generalizing n with
  | nil => rfl
  | own body isNew siblings ih => simp [visits, preorder, ih]
  | probe name kind hidesMenu children siblings ihc ihs => simp [visits, preorder, ihc, ihs]

/-- A dashboard that is displayed is among the pages. -/
theorem asks_of_visit {f : Forest} {n : Nat} {v : Nat × PageBody} (hv : v ∈ f.visits n)
    (hasks : v.2.Asks) : f.Asks :=
  ⟨v.2, f.map_visits n ▸ List.mem_map_of_mem hv, hasks⟩

/-- The pages have the numbers from a number on. -/
theorem map_number_planned (f : Forest) (n : Nat) :
    (f.planned n).map Planned.number = List.range' n f.size := by
  induction f generalizing n with
  | nil => rfl
  | own body isNew siblings ih => simp [planned, size, ih, Nat.add_comm 1, List.range'_succ]
  | probe name kind hidesMenu children siblings ihc ihs =>
    rw [size, Nat.add_assoc, ← List.range'_append_1, Nat.add_comm 1, List.range'_succ]
    simp [planned, ihc, ihs]

/-- As many pages are made as there are. -/
theorem length_planned (f : Forest) (n : Nat) : (f.planned n).length = f.size := by
  rw [← List.length_map Planned.number, map_number_planned, List.length_range']

/-- The number of a page of a forest. -/
theorem number_planned {f : Forest} {n : Nat} {e : Planned} (he : e ∈ f.planned n) :
    n ≤ e.number ∧ e.number < n + f.size := by
  have hmem : e.number ∈ List.range' n f.size :=
    f.map_number_planned n ▸ List.mem_map_of_mem he
  exact List.mem_range'_1.mp hmem

/-- **Every page is displayed exactly once.** -/
theorem perm_visits (f : Forest) (n : Nat) :
    ((f.planned n).map fun e => (e.number, e.body)).Perm (f.visits n) := by
  induction f generalizing n with
  | nil => exact .refl _
  | own body isNew siblings ih => exact (ih (n + 1)).cons _
  | probe name kind hidesMenu children siblings ihc ihs =>
    rw [planned, visits, List.map_append, List.map_cons]
    exact List.perm_middle.trans (((ihc n).append (ihs _)).cons _)

/-- A page that is displayed is one that is made. -/
theorem exists_planned {f : Forest} {n : Nat} {v : Nat × PageBody} (hv : v ∈ f.visits n) :
    ∃ e ∈ f.planned n, (e.number, e.body) = v :=
  List.mem_map.mp ((f.perm_visits n).mem_iff.mpr hv)

/-- The pages that no page of the forest displays have numbers of the forest.

**Proof sketch.** Induction on the forest. The first of these pages has the number behind those of
the pages below it, and the other ones are among the pages after it. -/
theorem mem_tops {f : Forest} {n p : Nat} (h : p ∈ f.tops n) : n ≤ p ∧ p < n + f.size := by
  induction f generalizing n with
  | nil => cases h
  | own body isNew siblings ih =>
    rw [size]
    rcases List.mem_cons.mp h with rfl | h
    · omega
    · have := ih h
      omega
  | probe name kind hidesMenu children siblings _ ihs =>
    rw [size]
    rcases List.mem_cons.mp h with rfl | h
    · omega
    · have := ihs h
      omega

/-- A page is made after those that it displays. -/
theorem displays_lt {f : Forest} {n : Nat} {e : Planned} (he : e ∈ f.planned n) {p : Nat}
    (hp : p ∈ e.displays) : p < e.number := by
  induction f generalizing n with
  | nil => cases he
  | own body isNew siblings ih =>
    rcases List.mem_cons.mp he with rfl | he
    · cases hp
    · exact ih he
  | probe name kind hidesMenu children siblings ihc ihs =>
    rcases List.mem_append.mp he with he | he
    · exact ihc he
    · rcases List.mem_cons.mp he with rfl | he
      · exact (mem_tops hp).2
      · exact ihs he

/-- A page that was just made is what it is made as, and has no timer.

**Proof sketch.** Induction on the forest, by the kinds of its pages. A form, a new dashboard and a
probe are in outline what they are made as. -/
theorem outline_planned {f : Forest} {n : Nat} {e : Planned} (he : e ∈ f.planned n) :
    (Page.fresh e.body).outline.body = e.body ∧ (Page.fresh e.body).timer? = none := by
  induction f generalizing n with
  | nil => cases he
  | own body isNew siblings ih =>
    rcases List.mem_cons.mp he with rfl | he
    · cases body with
      | login message => exact ⟨rfl, rfl⟩
      | dashboard d =>
        obtain rfl : d = ⟨none, none, none⟩ := isNew
        exact ⟨rfl, rfl⟩
      | probe name kind hidesMenu => exact isNew.elim
    · exact ih he
  | probe name kind hidesMenu children siblings ihc ihs =>
    rcases List.mem_append.mp he with he | he
    · exact ihc he
    · rcases List.mem_cons.mp he with rfl | he
      · exact ⟨rfl, rfl⟩
      · exact ihs he

end Forest

namespace Session

/-! ## Plans -/

/-- A session with other plans. -/
def withPlans (plans : List (Nat × Nat)) (s : Session) : Session :=
  { s with plans := plans }

/-- The plans of pages that are not among some consecutive ones. -/
def outside (n m : Nat) (plans : List (Nat × Nat)) : List (Nat × Nat) :=
  plans.filter fun plan => decide (plan.1 < n ∨ m ≤ plan.1)

/-- The plans that are neither of some pages nor of those next to them. -/
theorem outside_outside {n m k : Nat} (hnm : n ≤ m) (hmk : m ≤ k) (plans : List (Nat × Nat)) :
    outside n m (outside m k plans) = outside n k plans := by
  unfold outside
  rw [List.filter_filter]
  refine List.filter_congr fun plan _ => ?_
  rw [← Bool.decide_and]
  exact decide_eq_decide.mpr (by omega)

/-- No plan is taken out. -/
theorem outside_self (n : Nat) (plans : List (Nat × Nat)) : outside n n plans = plans :=
  List.filter_eq_self.mpr fun plan _ => decide_eq_true (Nat.lt_or_ge plan.1 n)

/-- Plans may be taken out in any order. -/
theorem outside_comm (n m a b : Nat) (plans : List (Nat × Nat)) :
    outside n m (outside a b plans) = outside a b (outside n m plans) :=
  List.filter_comm _ _ plans

/-- The plans of the other pages stay. -/
theorem plansOf_outside {n m p : Nat} (h : p < n ∨ m ≤ p) (s : Session) (plans : List (Nat × Nat)) :
    (s.withPlans (outside n m plans)).plansOf p = (s.withPlans plans).plansOf p := by
  unfold plansOf withPlans outside
  dsimp only
  rw [List.filter_filter]
  congr 1
  refine List.filter_congr fun plan _ => ?_
  by_cases hp : plan.1 = p
  · simp [hp, h]
  · simp [hp]

/-- Dropping the plans of a page leaves those of the others. -/
theorem plans_dropPlans (p : Nat) (s : Session) :
    (s.dropPlans p).plans = outside p (p + 1) s.plans := by
  unfold dropPlans outside
  refine List.filter_congr fun plan _ => ?_
  rw [Bool.eq_iff_iff, bne_iff_ne, decide_eq_true_iff]
  omega

/-- Without plans of a page, dropping them changes nothing. -/
theorem plans_dropPlans_of_plansOf {p : Nat} {s : Session} (h : s.plansOf p = []) :
    (s.dropPlans p).plans = s.plans := by
  refine List.filter_eq_self.mpr fun plan hplan => ?_
  have hnone := List.filter_eq_nil_iff.mp (List.map_eq_nil_iff.mp h) plan hplan
  rw [bne, Bool.not_eq_true _ |>.mp hnone]
  rfl

/-- Taking plans out again that were put in. -/
theorem withPlans_nil_of_plans {s : Session} (h : s.plans = []) (plans : List (Nat × Nat)) :
    (s.withPlans plans).withPlans [] = s := by
  have hsame : (s.withPlans plans).withPlans [] = s.withPlans [] := rfl
  rw [hsame, ← h]
  rfl

/-! ### Plans do not matter before they are followed -/

/-- Tearing a page down, whatever is planned.

**Proof sketch.** By the kinds of pages. No step of a teardown looks at the plans; cancelling a
timer does not either (`cancelTimer_eq`). -/
theorem teardown_withPlans (p : Nat) (plans : List (Nat × Nat)) (s : Session) :
    (s.withPlans plans).teardown p = (s.teardown p).withPlans plans := by
  have hcancel : ∀ t : Session, (t.withPlans plans).cancelTimer p =
      (t.cancelTimer p).withPlans plans := by
    intro t
    rw [cancelTimer_eq, cancelTimer_eq]
    rfl
  have hpages : (s.withPlans plans).pages = s.pages := rfl
  unfold teardown
  rw [hpages]
  rcases s.pages[p]? with _ | ⟨body, hasContext, isActive⟩
  · rfl
  · cases body with
    | login message => cases hasContext <;> rfl
    | dashboard d =>
      cases hasContext with
      | false => rfl
      | true =>
        exact congrArg
          (fun t : Session => (t.unbind .toggleHorizon).emit (.visible .certificatePanel false))
          (hcancel (s.modifyPage p fun page => { page with isActive := false }))
    | probe name kind hidesMenu => rfl

/-- One page gives way to another, whatever is planned.

**Proof sketch.** The greeting is the line, the leave, the context and the menu, and each of them
commutes with a change of the plans; of the leave that is `teardown_withPlans`. -/
theorem greeted_withPlans (p : Nat) (body : PageBody) (plans : List (Nat × Nat)) (s : Session) :
    (s.withPlans plans).greeted p body = (s.greeted p body).withPlans plans := by
  have hleave : ∀ t : Session, (t.withPlans plans).leave = t.leave.withPlans plans := by
    intro t
    have hcurrent : (t.withPlans plans).current = t.current := rfl
    unfold leave
    rw [hcurrent]
    rcases t.current with _ | q
    · rfl
    · exact teardown_withPlans q plans { t with current := none }
  have hgive : ∀ t : Session, (t.withPlans plans).giveContext p =
      (t.giveContext p).withPlans plans := by
    intro t
    have hpages : ∀ f, ((t.withPlans plans).modifyPage p f).pages = (t.modifyPage p f).pages :=
      fun _ => rfl
    unfold giveContext
    dsimp only
    rw [hpages]
    split <;> rfl
  have hlog : ∀ e, (s.withPlans plans).log e = (s.log e).withPlans plans := fun _ => rfl
  unfold greeted
  rw [hlog, hleave]
  exact congrArg (Session.emit _) (hgive { (s.log _).leave with current := some p })

/-- A page is initialized, whatever is planned. -/
theorem activate_withPlans (p : Nat) (plans : List (Nat × Nat)) (s : Session) :
    ((s.withPlans plans).activate p).1 = (s.activate p).1.withPlans plans := by
  have hpages : (s.withPlans plans).pages = s.pages := rfl
  unfold activate
  rw [hpages]
  rcases s.pages[p]? with _ | ⟨body, hasContext, isActive⟩
  · rfl
  · cases body <;> cases hasContext <;> rfl

/-- A request is sent that has to wait, whatever is planned. -/
theorem send_withPlans (purpose : Purpose) (call : Api.Call) (plans : List (Nat × Nat))
    {s : Session} (h : s.script = []) :
    ((s.withPlans plans).send purpose call).1 = (s.send purpose call).1.withPlans plans := by
  simp [send, log, emit, withPlans, h]

/-- Initializing a page uses up no reply. -/
theorem script_activate (p : Nat) (s : Session) : (s.activate p).1.script = s.script := by
  unfold activate
  split
  · rfl
  · split <;> rfl

/-- **A page is displayed** as if nothing was planned. It then displays the pages that it plans to,
which are planned no longer.

**Proof sketch.** With and without plans the display is the greeting and the activation, and then
what the kind of page leads to (`run_display_eq`, `activate_tasks`). A form and a dashboard plan
nothing. A probe is followed by the pages of its plans, which are dropped at that moment, and
without plans by none. -/
theorem Poised.run_display {previous : Option (Nat × PageBody)} {s : Session}
    (h : s.Poised previous) {p : Nat} {body : PageBody} (hrole : s.roleOf p = some body)
    (hown : body.IsOwn → s.plansOf p = []) (hscript : body.Asks → s.script = []) :
    s.run [.display p] =
      (((s.withPlans []).run [.display p]).withPlans (s.dropPlans p).plans).run
        ((s.plansOf p).map .display) := by
  obtain ⟨hgreeted, hcontext⟩ := h.greeted hrole
  have htasks := activate_tasks ((hgreeted.role p).trans hrole) hcontext
  have htasks' : (((s.greeted p body).withPlans []).activate p).2 = followUp p body :=
    activate_tasks (s := (s.greeted p body).withPlans []) ((hgreeted.role p).trans hrole) hcontext
  have hplans : ((s.greeted p body).activate p).1.plans = s.plans := by
    have hsame := activate_withPlans p (s.greeted p body).plans (s.greeted p body)
    exact (congrArg plans hsame).trans hgreeted.plans
  have hwaits : body.Asks → ((s.greeted p body).activate p).1.script = [] := fun hasks =>
    (script_activate p _).trans (hgreeted.script.trans (hscript hasks))
  rw [run_display_eq h.isAlive hrole, run_display_eq (s := s.withPlans []) h.isAlive hrole,
    greeted_withPlans, htasks, htasks', activate_withPlans]
  generalize ((s.greeted p body).activate p).1 = t at hplans hwaits
  have hback : t.withPlans s.plans = t := by rw [← hplans]; rfl
  have hidle : ∀ u : Session, (u.withPlans []).withPlans (s.dropPlans p).plans =
      u.withPlans (s.dropPlans p).plans := fun _ => rfl
  cases body with
  | login message =>
    rw [followUp, run_nil, run_nil, hidle, plans_dropPlans_of_plansOf (hown trivial), hback,
      hown trivial, List.map_nil, run_nil]
  | dashboard d =>
    have hwaits' : (t.withPlans []).script = [] := hwaits trivial
    have hsent := send_withPlans (.refresh p) .inventory s.plans (hwaits trivial)
    rw [hback] at hsent
    rw [followUp, run_send _ _ (hwaits trivial), run_send _ _ hwaits',
      send_withPlans _ _ _ (hwaits trivial), hidle, plans_dropPlans_of_plansOf (hown trivial),
      hown trivial, List.map_nil, run_nil]
    exact hsent
  | probe name kind hidesMenu =>
    have hplansOf : t.plansOf p = s.plansOf p := by unfold plansOf; rw [hplans]
    have hdrop : t.dropPlans p = t.withPlans (s.dropPlans p).plans := by
      unfold dropPlans; rw [hplans]; rfl
    have hnone : (t.withPlans []).dropPlans p = t.withPlans [] := rfl
    have hnothing : (t.withPlans []).plansOf p = [] := rfl
    rw [followUp, run_follow, run_follow, hnone, hnothing, List.map_nil, run_nil, hidle, hdrop, hplansOf]

/-! ## Forests are displayed -/

/-- A session in which the pages of a forest are made, and plan to display each other. -/
def Grown (f : Forest) (n : Nat) (s : Session) : Prop :=
  ∀ e ∈ f.planned n, s.roleOf e.number = some e.body ∧ s.plansOf e.number = e.displays

/-- The session in which the pages of a forest were displayed in turn, and plan nothing any
longer. -/
def flattened (f : Forest) (n : Nat) (s : Session) : Session :=
  ((s.withPlans []).inTurn ((f.visits n).map Prod.fst)).withPlans (outside n (n + f.size) s.plans)

/-- The pages of a forest are displayed after others, which plan nothing any longer. -/
theorem flattened_after {u : Session} (hu : u.plans = []) {n m : Nat} (hnm : n ≤ m) {f : Forest}
    {plans : List (Nat × Nat)} : (u.withPlans (outside n m plans)).flattened f m =
      (u.inTurn ((f.visits m).map Prod.fst)).withPlans (outside n (m + f.size) plans) := by
  rw [flattened, withPlans_nil_of_plans hu, ← outside_outside hnm (Nat.le_add_right m f.size),
    outside_comm]
  rfl

/-- **Displaying the pages of a forest is displaying all its pages in turn**, from any session that
shows a page, or none yet, and has no timer. They may be displayed by tasks or by actions. -/
def Flattens (f : Forest) : Prop :=
  ∀ {n : Nat} {previous : Option (Nat × PageBody)} {s : Session}, s.Poised previous → s.Grown f n →
    (f.Asks → s.script = []) →
      s.run ((f.tops n).map .display) = s.flattened f n ∧
      ((∀ p ∈ f.tops n, s.heldAt p = some p) →
        ((f.tops n).map Action.display).foldl (fun s a => s.apply a) s = s.flattened f n)

/-- Whatever is planned, a session shows the page that it shows. -/
theorem Poised.withPlans {previous : Option (Nat × PageBody)} {s : Session} (h : s.Poised previous)
    (plans : List (Nat × Nat)) : (s.withPlans plans).Poised previous :=
  ⟨h.isAlive, h.timer, h.current, h.role⟩

/-- The pages of a forest are what they are displayed as. -/
theorem Grown.role_visits {f : Forest} {n : Nat} {s : Session} (h : s.Grown f n) :
    ∀ v ∈ f.visits n, s.roleOf v.1 = some v.2 := by
  intro v hv
  obtain ⟨e, he, rfl⟩ := Forest.exists_planned hv
  exact (h e he).1

/-- The pages of a forest stay what they are, and so do their plans, if these are not among the
plans that are dropped. -/
theorem Grown.of_plays {es : List Effect} {f : Forest} {n a b : Nat} {current : Option Nat}
    {s t : Session} (h : s.Grown f n) (hplays : Plays es { s.withPlans [] with current := current } t)
    (hout : n + f.size ≤ a ∨ b ≤ n) : (t.withPlans (outside a b s.plans)).Grown f n := by
  intro e he
  have hnumber := Forest.number_planned he
  refine ⟨(hplays.role e.number).trans (h e he).1, ?_⟩
  rw [plansOf_outside (by omega)]
  exact (h e he).2

/-- **A page and those that it displays**: all of them are displayed in turn.

**Proof sketch.** The page is displayed as if nothing was planned, and then the pages that it plans
(`Poised.run_display`). These are the first ones of the forest below it, which by hypothesis are
displayed in turn with all of their own. The session behind the page is poised for them, and the
plans outside of the tree stay. -/
theorem Flattens.tree {c : Forest} (hc : Flattens c) {n : Nat} {body : PageBody}
    {previous : Option (Nat × PageBody)} {s : Session} (h : s.Poised previous) (hgrown : s.Grown c n)
    (hrole : s.roleOf (n + c.size) = some body) (hplans : s.plansOf (n + c.size) = c.tops n)
    (hown : body.IsOwn → c.tops n = []) (hscript : body.Asks ∨ c.Asks → s.script = []) :
    s.run [.display (n + c.size)] =
      ((s.withPlans []).inTurn ((n + c.size) :: (c.visits n).map Prod.fst)).withPlans
        (outside n (n + c.size + 1) s.plans) := by
  obtain ⟨hplays, hposed⟩ := (h.withPlans []).display rfl hrole fun hasks => hscript (.inl hasks)
  have hturn : (s.withPlans []).inTurn ((n + c.size) :: (c.visits n).map Prod.fst) =
      ((s.withPlans []).run [.display (n + c.size)]).inTurn ((c.visits n).map Prod.fst) := rfl
  rw [h.run_display hrole (fun ho => hplans.trans (hown ho)) (fun hasks => hscript (.inl hasks)),
    plans_dropPlans, hplans, hturn]
  generalize (s.withPlans []).run [.display (n + c.size)] = u at hplays hposed
  have hbelow : (u.withPlans (outside (n + c.size) (n + c.size + 1) s.plans)).Grown c n :=
    hgrown.of_plays hplays (.inl (Nat.le_refl _))
  rw [(hc (hposed.withPlans _) hbelow fun hasks => hplays.script.trans (hscript (.inr hasks))).1,
    flattened, withPlans_nil_of_plans hplays.plans]
  exact congrArg (fun plans => (u.inTurn _).withPlans plans)
    (outside_outside (Nat.le_add_right n c.size) (Nat.le_succ _) s.plans)

/-- **A page, those that it displays and the pages after it**: all of them are displayed in turn.

**Proof sketch.** The tree of the first page is displayed in turn (`Flattens.tree`), and the session
behind it is poised for the pages after it, of which the hypothesis says the same. Their plans were
outside of the tree, so that they are still there (`Grown.of_plays`). -/
theorem Flattens.node {c r : Forest} (hc : Flattens c) (hr : Flattens r) {n : Nat} {body : PageBody}
    {previous : Option (Nat × PageBody)} {s : Session} (h : s.Poised previous) (hgrown : s.Grown c n)
    (hgrown' : s.Grown r (n + c.size + 1)) (hrole : s.roleOf (n + c.size) = some body)
    (hplans : s.plansOf (n + c.size) = c.tops n) (hown : body.IsOwn → c.tops n = [])
    (hscript : body.Asks ∨ c.Asks ∨ r.Asks → s.script = []) {t : Session}
    (ht : t = ((s.withPlans []).inTurn (((n + c.size, body) ::
      (c.visits n ++ r.visits (n + c.size + 1))).map Prod.fst)).withPlans
        (outside n (n + (c.size + 1 + r.size)) s.plans)) :
    s.run (((n + c.size) :: r.tops (n + c.size + 1)).map .display) = t ∧
      ((∀ p ∈ (n + c.size) :: r.tops (n + c.size + 1), s.heldAt p = some p) →
        (((n + c.size) :: r.tops (n + c.size + 1)).map Action.display).foldl
          (fun s a => s.apply a) s = t) := by
  have htree := hc.tree h hgrown hrole hplans hown fun hasks =>
    hscript (hasks.elim .inl fun hbelow => .inr (.inl hbelow))
  have hasked : ∀ v ∈ (n + c.size, body) :: c.visits n, v.2.Asks → s.script = [] := by
    refine List.forall_mem_cons.mpr ⟨fun hasks => hscript (.inl hasks), fun v hv hasks => ?_⟩
    exact hscript (.inr (.inl (Forest.asks_of_visit hv hasks)))
  obtain ⟨hplays, hposed⟩ := (h.withPlans []).inTurn rfl ((n + c.size, body) :: c.visits n)
    (List.forall_mem_cons.mpr ⟨hrole, hgrown.role_visits⟩) hasked
  rw [List.map_cons] at hplays hposed
  rw [← List.cons_append, List.map_append, List.map_cons, inTurn_append] at ht
  generalize (s.withPlans []).inTurn ((n + c.size) :: (c.visits n).map Prod.fst) = u
    at htree hplays hposed ht
  have hafter : (u.withPlans (outside n (n + c.size + 1) s.plans)).Grown r (n + c.size + 1) :=
    hgrown'.of_plays hplays (.inr (Nat.le_refl _))
  have hrest := hr (hposed.withPlans _) hafter
    fun hasks => hplays.script.trans (hscript (.inr (.inr hasks)))
  have hend : n + c.size + 1 + r.size = n + (c.size + 1 + r.size) := by omega
  rw [flattened_after hplays.plans (by omega), hend, ← ht] at hrest
  refine ⟨?_, fun hheld => ?_⟩
  · rw [List.map_cons, ← List.singleton_append, run_append, htree]
    exact hrest.1
  · rw [List.map_cons, List.foldl_cons, apply_display_eq (hheld _ List.mem_cons_self), htree]
    exact hrest.2 fun p hp =>
      (hplays.heldAt_eq p).trans (hheld p (List.mem_cons_of_mem _ hp))

/-- Displaying no page changes nothing. -/
theorem Flattens.nil : Flattens .nil := by
  intro n previous s _ _ _
  have hsame : s.flattened .nil n = s :=
    congrArg (fun plans => (s.withPlans []).withPlans plans) (outside_self n s.plans)
  rw [hsame]
  exact ⟨run_nil s, fun _ => rfl⟩

/-- **Displaying the pages of a forest is displaying all its pages in turn.**

**Proof sketch.** Induction on the forest. A page without pages below it is a tree over the empty
forest. In each case the whole is a page, the forest below it and the one after it
(`Flattens.node`), and only the condition on the script is to be passed on. -/
theorem Flattens.forest (f : Forest) : Flattens f := by
  induction f with
  | nil => exact Flattens.nil
  | own body isNew siblings ih =>
    intro n previous s h hgrown hscript
    obtain ⟨⟨hrole, hplans⟩, hafter⟩ := List.forall_mem_cons.mp hgrown
    refine Flattens.node Flattens.nil ih h (List.forall_mem_nil _) hafter hrole hplans
      (fun _ => rfl) ?_ rfl
    rintro (hasks | ⟨_, hnone, _⟩ | ⟨b, hb, hasks⟩)
    · exact hscript ⟨body, List.mem_cons_self, hasks⟩
    · cases hnone
    · exact hscript ⟨b, List.mem_cons_of_mem _ hb, hasks⟩
  | probe name kind hidesMenu children siblings ihc ihs =>
    intro n previous s h hgrown hscript
    obtain ⟨hbelow, htop⟩ := List.forall_mem_append.mp hgrown
    obtain ⟨⟨hrole, hplans⟩, hafter⟩ := List.forall_mem_cons.mp htop
    refine Flattens.node ihc ihs h hbelow hafter hrole hplans (fun ho => ho.elim) ?_ rfl
    rintro (hasks | ⟨b, hb, hasks⟩ | ⟨b, hb, hasks⟩)
    · exact hasks.elim
    · exact hscript ⟨b, List.mem_cons_of_mem _ (List.mem_append_left _ hb), hasks⟩
    · exact hscript ⟨b, List.mem_cons_of_mem _ (List.mem_append_right _ hb), hasks⟩

/-! ## Making the pages -/

/-- The session in which pages are made and kept, each with its plans. -/
def planted (entries : List Planned) (s : Session) : Session := { s with
  pages := s.pages ++ entries.map fun e => .fresh e.body
  held := s.held ++ entries.map fun e => some e.number
  plans := s.plans ++ entries.flatMap fun e => e.displays.map fun p => (e.number, p) }

/-- One page is made and kept. -/
theorem apply_keep {s : Session} (hheld : s.held = (List.range s.pages.length).map some)
    (body : PageBody) {displays : List Nat} (hdisplays : ∀ p ∈ displays, p < s.pages.length) :
    s.apply (.keep body displays) = s.planted [⟨s.pages.length, body, displays⟩] := by
  have htargets : (displays.filterMap fun place => s.heldAt place) = displays := by
    have hplace : ∀ place ∈ displays, s.heldAt place = some place := by
      intro place hplace
      simp [heldAt, hheld, hdisplays place hplace]
    rw [List.filterMap_congr hplace, List.filterMap_some]
  simp only [apply, begin, make, addPage, htargets, run_nil, planted]
  simp

/-- **Pages are made and kept**, each after those that it displays.

**Proof sketch.** Induction on the entries, for every session with all pages kept. The next page
gets the next number and is kept at the place of that number (`apply_keep`), so the hypothesis holds
of the rest. -/
theorem foldl_keep {s : Session} (hheld : s.held = (List.range s.pages.length).map some)
    (entries : List Planned)
    (hnumber : entries.map Planned.number = List.range' s.pages.length entries.length)
    (hdisplays : ∀ e ∈ entries, ∀ p ∈ e.displays, p < e.number) :
    (entries.map fun e => Action.keep e.body e.displays).foldl (fun s a => s.apply a) s =
      s.planted entries := by
  induction entries generalizing s with
  | nil => simp [planted]
  | cons e entries ih =>
    obtain ⟨number, body, displays⟩ := e
    obtain ⟨hfirst, hothers⟩ := List.forall_mem_cons.mp hdisplays
    rw [List.map_cons, List.length_cons, List.range'_succ] at hnumber
    obtain ⟨rfl, hnumber⟩ := List.cons.inj hnumber
    rw [List.map_cons, List.foldl_cons, apply_keep hheld body hfirst, ih ?_ ?_ hothers]
    · simp [planted]
    · simp [planted, hheld, List.range_succ]
    · simpa [planted] using hnumber

/-- The plans that a page is made with are the ones that it has.

**Proof sketch.** The entry stands between others, none of which has its number. So of all plans the
filter leaves exactly those of the entry. -/
theorem plansOf_entries {entries : List Planned} (hnodup : (entries.map Planned.number).Nodup)
    {e : Planned} (he : e ∈ entries) :
    ((entries.flatMap fun e => e.displays.map fun p => (e.number, p)).filter
      fun plan => plan.1 == e.number).map Prod.snd = e.displays := by
  have hothers : ∀ others : List Planned, e.number ∉ others.map Planned.number →
      (others.flatMap fun e => e.displays.map fun p => (e.number, p)).filter
        (fun plan => plan.1 == e.number) = [] := by
    intro others hnot
    refine List.filter_eq_nil_iff.mpr fun plan hplan => ?_
    obtain ⟨other, hother, hplan⟩ := List.mem_flatMap.mp hplan
    obtain ⟨p, -, rfl⟩ := List.mem_map.mp hplan
    have hne : other.number ≠ e.number := fun heq => hnot (heq ▸ List.mem_map_of_mem hother)
    simpa using hne
  obtain ⟨before, after, rfl⟩ := List.append_of_mem he
  have hnot : e.number ∉ before.map Planned.number ∧ e.number ∉ after.map Planned.number := by
    rw [List.map_append, List.map_cons, List.nodup_middle, List.nodup_cons] at hnodup
    simpa [not_or] using hnodup.1
  rw [List.flatMap_append, List.flatMap_cons, List.filter_append, List.filter_append,
    hothers before hnot.1, hothers after hnot.2, List.nil_append, List.append_nil,
    List.filter_eq_self.mpr (by simp), List.map_map]
  exact List.map_id _

/-- **The pages of a forest are made**, in a session without pages and plans.

**Proof sketch.** The page of an entry is found under its number, because the numbers count from
zero (`map_number_planned`). Its role is the body of the entry, and its plans are its own
(`plansOf_entries`), since no number occurs twice. -/
theorem grown_planted (f : Forest) {s : Session} (hpages : s.pages = []) (hplans : s.plans = []) :
    (s.planted (f.planned 0)).Grown f 0 := by
  intro e he
  obtain ⟨i, hi⟩ := List.mem_iff_getElem?.mp he
  have hnumbers : (List.range' 0 f.size)[i]? = some e.number := by
    rw [← f.map_number_planned 0, List.getElem?_map, hi]
    rfl
  obtain ⟨_, hnumber⟩ := List.getElem?_eq_some_iff.mp hnumbers
  have hnumber : i = e.number := by simpa using hnumber
  subst hnumber
  constructor
  · simp [roleOf, planted, hpages, hi, (Forest.outline_planned he).1]
  · unfold plansOf planted
    dsimp only
    rw [hplans, List.nil_append]
    exact plansOf_entries (f.map_number_planned 0 ▸ List.nodup_range') he

/-- The pages of a forest are kept, each at the place of its number. -/
theorem heldAt_planted {f : Forest} {s : Session} (hheld : s.held = []) {p : Nat} (hp : p < f.size) :
    (s.planted (f.planned 0)).heldAt p = some p := by
  have hkept : (f.planned 0).map (fun e => some e.number) = (List.range' 0 f.size).map some := by
    rw [← f.map_number_planned 0, List.map_map]
    rfl
  simp [heldAt, planted, hheld, hkept, hp]

/-- Taking out the plans of all pages of a forest. -/
theorem outside_entries {f : Forest} :
    outside 0 f.size ((f.planned 0).flatMap fun e => e.displays.map fun p => (e.number, p)) = [] := by
  refine List.filter_eq_nil_iff.mpr fun plan hplan => ?_
  obtain ⟨e, he, hplan⟩ := List.mem_flatMap.mp hplan
  obtain ⟨p, -, rfl⟩ := List.mem_map.mp hplan
  have hnumber := Forest.number_planned he
  rw [decide_eq_true_iff]
  dsimp only
  omega

/-! ## The two sessions -/

section

variable (services : Services) (now : Int64) (cookies : String) (script : List Api.Reply)

/-- The session in which the pages of a forest are made and no page is displayed. -/
def made (f : Forest) : Session :=
  (start services now cookies script).planted (f.planned 0)

/-- It shows no page, and has no timer. -/
theorem poised_made (f : Forest) : (made services now cookies script f).Poised none := by
  refine ⟨rfl, fun p => ?_, rfl, fun v hv => nomatch hv⟩
  have hpage : (made services now cookies script f).pages[p]? =
      ((f.planned 0)[p]?).map fun e => .fresh e.body := List.getElem?_map
  unfold timerOf
  rw [hpage]
  rcases he : (f.planned 0)[p]? with _ | e
  · rfl
  · exact (Forest.outline_planned (List.mem_of_getElem? he)).2

/-- The pages are what they are displayed as. -/
theorem role_made (f : Forest) :
    ∀ v ∈ f.visits 0, (made services now cookies script f).roleOf v.1 = some v.2 :=
  (grown_planted f rfl rfl).role_visits

/-- The pages are made, with their plans. -/
theorem foldl_keep_planned (f : Forest) :
    ((f.planned 0).map fun e => Action.keep e.body e.displays).foldl (fun s a => s.apply a)
      (start services now cookies script) = made services now cookies script f := by
  refine foldl_keep rfl (f.planned 0) ?_ fun e he p hp => Forest.displays_lt he hp
  rw [f.length_planned]
  exact f.map_number_planned 0

/-- The pages are made, without plans. -/
theorem foldl_keep_unplanned (f : Forest) :
    ((f.planned 0).map fun e => Action.keep e.body []).foldl (fun s a => s.apply a)
      (start services now cookies script) = (made services now cookies script f).withPlans [] := by
  have hkeep := foldl_keep (s := start services now cookies script) rfl
    ((f.planned 0).map fun e => { e with displays := [] }) ?_ ?_
  · rw [List.map_map] at hkeep
    refine hkeep.trans ?_
    simp [made, planted, withPlans, start]
  · rw [List.length_map, f.length_planned, List.map_map]
    exact f.map_number_planned 0
  · simp

variable {script} {f : Forest} (hscript : f.Asks → script = [])

include hscript

/-- Displaying the pages in turn, with what there is to see. -/
theorem inTurn_made :
    Plays (course services none (f.visits 0))
      { (made services now cookies script f).withPlans [] with
        current := ((f.visits 0).getLast?).map Prod.fst }
      (((made services now cookies script f).withPlans []).inTurn ((f.visits 0).map Prod.fst)) := by
  have h := (((poised_made services now cookies script f).withPlans []).inTurn rfl (f.visits 0)
    (role_made services now cookies script f)
    fun v hv hasks => hscript (Forest.asks_of_visit hv hasks)).1
  rw [Option.or_none] at h
  exact h

/-- Pages that display each other are displayed in turn. -/
theorem foldl_nested :
    f.nested.foldl (fun s a => s.apply a) (start services now cookies script) =
      ((made services now cookies script f).withPlans []).inTurn ((f.visits 0).map Prod.fst) := by
  have hflat := (Flattens.forest f (poised_made services now cookies script f)
    (grown_planted f rfl rfl) hscript).2
    fun p hp => heldAt_planted rfl (by simpa using (Forest.mem_tops hp).2)
  rw [Forest.nested, List.foldl_append, foldl_keep_planned, hflat]
  have hnone : outside 0 (0 + f.size) (made services now cookies script f).plans = [] := by
    rw [Nat.zero_add]
    exact outside_entries
  rw [flattened, hnone]
  exact withPlans_nil_of_plans (inTurn_made services now cookies hscript).plans []

/-- Pages that are displayed one by one are displayed in turn. -/
theorem foldl_oneByOne :
    f.oneByOne.foldl (fun s a => s.apply a) (start services now cookies script) =
      ((made services now cookies script f).withPlans []).inTurn ((f.visits 0).map Prod.fst) := by
  rw [Forest.oneByOne, List.foldl_append, foldl_keep_unplanned]
  refine ((poised_made services now cookies script f).withPlans []).foldl_display rfl
    (role_made services now cookies script f)
    (fun v hv hasks => hscript (Forest.asks_of_visit hv hasks)) fun v hv => ?_
  obtain ⟨e, he, rfl⟩ := Forest.exists_planned hv
  exact heldAt_planted rfl (by simpa using (Forest.number_planned he).2)

end

/-- **A session in which pages display pages is the one in which all of them are displayed from
outside**, one after another, in the order in which their displays begin. Every page is displayed
exactly once: it is given a context, the menu is shown or hidden as the page has it, the page is
initialized, and before the next page is given a context it is torn down. The last page stays
current.

**Proof sketch.** Both sessions make the same pages first. Then the one displays the first pages
of the forest, and the other one all of them, and by `Flattens.forest` either comes to
displaying all pages in turn (`foldl_nested`, `foldl_oneByOne`). What that leaves in the trace
is its course (`inTurn_made`), from which the stages and the menu are read off
(`recorded_course`, `menu_course`). -/
theorem nested_eq_oneByOne (services : Services) (now : Int64) (cookies : String)
    (script : List Api.Reply) (f : Forest) (hscript : f.Asks → script = []) :
    let begun := start services now cookies script
    let nested := f.nested.foldl (fun s a => s.apply a) begun
    nested = f.oneByOne.foldl (fun s a => s.apply a) begun ∧
      (f.visits 0).map Prod.snd = f.preorder ∧
      ((f.visits 0).map Prod.fst).Perm (List.range f.size) ∧
      nested.trace = course services none (f.visits 0) ∧
      nested.trace.filterMap Effect.recorded? = (lives none f.preorder).filterMap recorded? ∧
      nested.trace.filterMap (Effect.visibility .hamburgerMenu) =
        f.preorder.map (fun body => !(Page.fresh body).hidesMenu) ∧
      nested.current = (f.visits 0).getLast?.map Prod.fst ∧
      ∀ v ∈ f.visits 0, nested.roleOf v.1 = some v.2 := by
  intro begun nested
  have hnested : nested = ((made services now cookies script f).withPlans []).inTurn
      ((f.visits 0).map Prod.fst) := foldl_nested services now cookies hscript
  have hplays := inTurn_made services now cookies hscript
  rw [← hnested] at hplays
  have htrace : nested.trace = course services none (f.visits 0) := hplays.trace
  have hpages : ((f.visits 0).map Prod.fst).Perm (List.range f.size) := by
    have hperm := ((f.perm_visits 0).map Prod.fst).symm
    rw [List.map_map] at hperm
    rw [List.range_eq_range', ← f.map_number_planned 0]
    exact hperm
  refine ⟨?_, f.map_visits 0, hpages, htrace, ?_, ?_, hplays.current, fun v hv => ?_⟩
  · exact hnested.trans (foldl_oneByOne services now cookies hscript).symm
  · rw [htrace, recorded_course, f.map_visits]
    rfl
  · rw [htrace, menu_course, ← f.map_visits 0, List.map_map]
    rfl
  · exact (hplays.role v.1).trans (role_made services now cookies script f v hv)

/-- A probe displays a dashboard and a probe, which displays a login form; another probe is
displayed after it. -/
def nestedDisplays : Forest :=
  .probe "first" .dashboard false
    (.own (.dashboard ⟨none, none, none⟩) rfl
      (.probe "second" .login true (.own (.login none) trivial .nil) .nil))
    (.probe "third" .dashboard false .nil .nil)

/-- Pages that display pages, three calls deep, by the defaults.

**Proof sketch.** There is no script, so the theorem applies to the forest; the two lists and the
last number are evaluated. -/
theorem nested_eq_oneByOne_standardStart :
    let nested := nestedDisplays.nested.foldl (fun s a => s.apply a) standardStart
    (nestedDisplays.Asks → standardStart.script = []) ∧
      nested = nestedDisplays.oneByOne.foldl (fun s a => s.apply a) standardStart ∧
      nested.trace.filterMap Effect.recorded? =
        [("first", .context), ("first", .activation), ("first", .teardown),
          ("second", .context), ("second", .activation), ("second", .teardown),
          ("third", .context), ("third", .activation)] ∧
      nested.trace.filterMap (Effect.visibility .hamburgerMenu) =
        [true, true, false, false, true] ∧
      nested.current = some 4 := by
  intro nested
  obtain ⟨heq, -, -, -, hrecorded, hmenu, hcurrent, -⟩ :=
    nested_eq_oneByOne standardServices 0 "" [] nestedDisplays fun _ => rfl
  exact ⟨fun _ => rfl, heq, hrecorded, hmenu, hcurrent⟩

end Session

end CertDashboard
