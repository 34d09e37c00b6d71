import Mathlib.Data.List.TakeWhile
import CertDashboard.Proofs.Session.Deed

set_option autoImplicit false
set_option relaxedAutoImplicit false

/-!
# What happened to a dashboard

The past of a live session is a list of actions, each with the state that it came upon. Some of them
turned the picture of a page: they brought it an inventory, or changed its horizon.

## Main definitions

* `CertDashboard.Session.Past` — a live session and its past.
* `CertDashboard.Session.turns` — what turned the picture of a page, in order.
* `CertDashboard.Session.inventories`, `CertDashboard.Session.toggles`,
  `CertDashboard.Session.lateToggles` — the inventories among these turns, the changes of the
  horizon, and those that there already was an inventory for.
* `CertDashboard.Session.horizonAfter` — the horizon after so many changes.
* `CertDashboard.Session.Drawn` — what a dashboard and the views that it rendered have to be, by
  the turns of its picture.

## Main results

* `CertDashboard.Session.Drawn.inventory`, `CertDashboard.Session.Drawn.toggle` — one more turn.
-/

namespace CertDashboard

namespace Session

/-! ## The past -/

/-- **A moment of the past**: an action, and the state that it came upon. -/
structure Moment where
  /-- The state. -/
  before : Session
  /-- The action. -/
  action : Action

/-- **A live session and its past**, oldest moment first. -/
inductive Past : List Moment → Session → Prop where
  /-- A session that begins has no past. -/
  | begin {s : Session} : Begins s → Past [] s
  /-- One more action. -/
  | step {past : List Moment} {s : Session} (action : Action) : action.IsOrdinary → Past past s →
    Past (past ++ [⟨s, action⟩]) (s.apply action)

/-- A session with a past is a live one. -/
theorem Past.reachable {past : List Moment} {s : Session} (h : Past past s) : Reachable s := by
  induction h with
  | begin hs => exact .begin hs
  | step action ha _ ih => exact .step action ha ih

/-- Every live session has a past. -/
theorem Reachable.exists_past {s : Session} (h : Reachable s) : ∃ past, Past past s := by
  induction h with
  | begin hs => exact ⟨[], .begin hs⟩
  | step action ha _ ih =>
    obtain ⟨past, hpast⟩ := ih
    exact ⟨_, .step action ha hpast⟩

/-! ## Turns -/

/-- **What turned the picture of a page**, in order. -/
def turns (p : Nat) (past : List Moment) : List Turn :=
  past.filterMap fun m => m.before.turn? p m.action

/-- When the picture was turned. -/
def Turn.now : Turn → Int64
  | .inventory now _ => now
  | .toggle now => now

/-- The inventory that turned the picture, if it was one. -/
def Turn.certificates? : Turn → Option (List Certificate)
  | .inventory _ certificates => some certificates
  | .toggle _ => none

/-- Whether the horizon was changed. -/
def Turn.isToggle : Turn → Bool
  | .inventory _ _ => false
  | .toggle _ => true

/-- The inventories that came, in order. -/
def inventories (turns : List Turn) : List (List Certificate) :=
  turns.filterMap Turn.certificates?

/-- The number of changes of the horizon. -/
def toggles (turns : List Turn) : Nat :=
  turns.countP Turn.isToggle

/-- The number of changes of the horizon after the first inventory. -/
def lateToggles (turns : List Turn) : Nat :=
  toggles (turns.dropWhile Turn.isToggle)

/-- **The horizon after so many changes**: that of the collapsed view after an even number of them,
and none after an odd number. -/
def horizonAfter (collapsed : Horizon) (n : Nat) : Horizon :=
  if n % 2 = 0 then collapsed else .unbounded

/-- One more change of the horizon. -/
theorem otherHorizon_horizonAfter (s : Session) (n : Nat) :
    s.otherHorizon (some (horizonAfter s.services.tuning.horizon n)) =
      horizonAfter s.services.tuning.horizon (n + 1) := by
  unfold otherHorizon horizonAfter
  by_cases hn : n % 2 = 0
  · have hn' : (n + 1) % 2 ≠ 0 := by omega
    rw [if_pos hn, if_neg hn']
    split
    · next h => exact Option.some_inj.mp h
    · rfl
  · have hn' : (n + 1) % 2 = 0 := by omega
    rw [if_neg hn, if_pos hn', if_pos rfl]

section Turns

variable (turns : List Turn) (now : Int64) (certificates : List Certificate)

/-- One more inventory. -/
theorem inventories_inventory :
    inventories (turns ++ [.inventory now certificates]) = inventories turns ++ [certificates] := by
  simp [inventories, Turn.certificates?]

/-- A change of the horizon is no inventory. -/
theorem inventories_toggle : inventories (turns ++ [.toggle now]) = inventories turns := by
  simp [inventories, Turn.certificates?]

/-- An inventory is no change of the horizon. -/
theorem toggles_inventory : toggles (turns ++ [.inventory now certificates]) = toggles turns := by
  simp [toggles, Turn.isToggle]

/-- One more change of the horizon, in number. -/
theorem toggles_toggle : toggles (turns ++ [.toggle now]) = toggles turns + 1 := by
  simp [toggles, Turn.isToggle]

/-- There was no inventory if and only if there were changes of the horizon only. -/
theorem inventories_eq_nil_iff : inventories turns = [] ↔ turns.dropWhile Turn.isToggle = [] := by
  rw [inventories, List.filterMap_eq_nil_iff, List.dropWhile_eq_nil_iff]
  refine forall₂_congr fun turn _ => ?_
  cases turn <;> simp [Turn.certificates?, Turn.isToggle]

/-- An inventory is no change of the horizon after the first one. -/
theorem lateToggles_inventory :
    lateToggles (turns ++ [.inventory now certificates]) = lateToggles turns := by
  unfold lateToggles
  rw [List.dropWhile_append]
  split
  · next h => simp [List.isEmpty_iff.mp h, toggles, Turn.isToggle]
  · exact toggles_inventory _ now certificates

/-- One more change of the horizon is one after the first inventory, if there was a last one.

**Proof sketch.** The changes behind the first inventory are counted from where that stands. Without
an inventory the new change is not counted, and with one it is. -/
theorem lateToggles_toggle : lateToggles (turns ++ [.toggle now]) =
    lateToggles turns + (inventories turns).getLast?.toList.length := by
  unfold lateToggles
  rw [List.dropWhile_append]
  split
  · next h =>
    have hnone := List.isEmpty_iff.mp h
    rw [(inventories_eq_nil_iff turns).mpr hnone, hnone]
    rfl
  · next h =>
    have hsome : inventories turns ≠ [] := by
      rw [Ne, inventories_eq_nil_iff]
      simpa using h
    rw [toggles_toggle, List.getLast?_eq_some_getLast hsome]
    rfl

end Turns

/-! ## Pictures -/

/-- **What a dashboard and the views that it rendered have to be**, by the turns of its picture. -/
structure Drawn (turns : List Turn) (d : Dashboard) (views : List View) (collapsed : Horizon) :
    Prop where
  /-- The horizon was changed so many times. -/
  horizon : d.horizon = some (horizonAfter collapsed (toggles turns))
  /-- The inventory is the last one that came. -/
  snapshot : d.snapshot = (inventories turns).getLast?
  /-- Each inventory was rendered, and each change of the horizon that there was one for. -/
  count : views.length = (inventories turns).length + lateToggles turns
  /-- The last view is the one of the last inventory, as of the last turn. -/
  last : ∀ certificates, d.snapshot = some certificates → ∃ now,
    turns.getLast?.map Turn.now = some now ∧ views.getLast? =
      some (inventoryView now (horizonAfter collapsed (toggles turns)) certificates)

namespace Drawn

variable {turns : List Turn} {d : Dashboard} {views : List View} {collapsed : Horizon}

/-- A dashboard that comes to the screen has rendered nothing. -/
theorem fresh (collapsed : Horizon) (timer : Option Nat) :
    Drawn [] ⟨some collapsed, none, timer⟩ [] collapsed :=
  ⟨rfl, rfl, rfl, nofun⟩

/-- Another timer turns no picture. -/
theorem withTimer (h : Drawn turns d views collapsed) (timer : Option Nat) :
    Drawn turns { d with timer := timer } views collapsed :=
  ⟨h.horizon, h.snapshot, h.count, h.last⟩

/-- **An inventory comes** and is rendered with the horizon as it is.

**Proof sketch.** Field by field. The horizon is as it was, the inventory is the last one now, and
there is one more view, which is that of the inventory with the horizon of so many changes. -/
theorem inventory (h : Drawn turns d views collapsed) (now : Int64)
    (certificates : List Certificate) :
    Drawn (turns ++ [.inventory now certificates]) { d with snapshot := some certificates }
      (views ++ [inventoryView now (d.horizon.getD collapsed) certificates]) collapsed where
  horizon := by
    rw [toggles_inventory]
    exact h.horizon
  snapshot := by
    rw [inventories_inventory, List.getLast?_concat]
  count := by
    rw [inventories_inventory, lateToggles_inventory, List.length_append, h.count,
      List.length_append]
    simp only [List.length_singleton]
    omega
  last := by
    intro shown hshown
    obtain rfl : certificates = shown := Option.some_inj.mp hshown
    refine ⟨now, by simp [Turn.now], ?_⟩
    rw [List.getLast?_concat, toggles_inventory, h.horizon, Option.getD_some]

/-- **The horizon is changed**, and the inventory is rendered again, if there is one.

**Proof sketch.** Field by field. One more change makes the other horizon, and a view is added
if and only if there is an inventory (`lateToggles_toggle`), which is then rendered with that
horizon. -/
theorem toggle (h : Drawn turns d views collapsed) (now : Int64) :
    Drawn (turns ++ [.toggle now])
      { d with horizon := some (horizonAfter collapsed (toggles turns + 1)) }
      (views ++ d.snapshot.toList.map
        (inventoryView now (horizonAfter collapsed (toggles turns + 1)))) collapsed where
  horizon := by
    rw [toggles_toggle]
  snapshot := by
    rw [inventories_toggle]
    exact h.snapshot
  count := by
    rw [inventories_toggle, lateToggles_toggle, List.length_append, h.count, List.length_map,
      h.snapshot]
    omega
  last := by
    intro shown hshown
    have hshown : d.snapshot = some shown := hshown
    refine ⟨now, by simp [Turn.now], ?_⟩
    rw [toggles_toggle, hshown]
    simp

end Drawn

end Session

end CertDashboard
