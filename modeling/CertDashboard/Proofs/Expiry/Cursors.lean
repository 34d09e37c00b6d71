import CertDashboard.Proofs.Expiry.Bands
import Mathlib.Data.List.Forall2

set_option autoImplicit false
set_option relaxedAutoImplicit false

/-!
# Cursors side by side

Any number of cursors go through one inventory, each at its own pace, and a copy may be made of each
of them at any time. Whatever is done with them in whatever order, each one does as a mere number
would: the number of certificates that it has passed. What is shown of the inventory are the
certificates in front of the first one that the horizon does not admit, in any order of expiry.

## Main definitions

* `CertDashboard.Horizon.shown` — the certificates that a horizon shows.
* `CertDashboard.Expiry.Cursor.collect` — one certificate after another.
* `CertDashboard.Expiry.Views.Move` — one use of one cursor among several, or a copy of it.
* `CertDashboard.Expiry.Place` — what a cursor is: how many certificates it has passed, and whether
  it has ended.
* `CertDashboard.Expiry.Cursor.StandsAt` — a cursor that is at a place.

## Main results

* `CertDashboard.Expiry.Cursor.collect_eq` — what is left is what is found until there is no more.
* `CertDashboard.Expiry.Views.answers_eq`, `forall₂_after` — two kinds of views that agree on every
  use agree on every run.
* `CertDashboard.Expiry.Cursor.exists_ended_after` — a cursor that finds none finds none ever after.
* `CertDashboard.Expiry.Cursor.StandsAt.use` — cursors and their places agree on every use.
* `CertDashboard.Expiry.Cursor.answers_eq_places` — so they do on every run.
-/

namespace CertDashboard

open Expiry

/-! ## What a horizon shows -/

namespace Horizon

/-- **The certificates that a horizon shows**: those in front of the first one that it does not
admit. -/
def shown (horizon : Horizon) (now : Int64) (certificates : List Certificate) : List Certificate :=
  certificates.takeWhile (horizon.covers now)

variable {horizon : Horizon} {now : Int64} {certificates : List Certificate}

/-- **Nothing longer is admitted as a whole**: each beginning of the inventory that the horizon
admits is a beginning of what is shown. -/
theorem prefix_shown {first : List Certificate} (h : first <+: certificates)
    (hcovers : ∀ c ∈ first, horizon.covers now c = true) :
    first <+: horizon.shown now certificates := by
  obtain ⟨others, rfl⟩ := h
  rw [shown, List.takeWhile_append_of_pos hcovers]
  exact List.prefix_append first _

/-- What is shown behind some certificates that are shown. -/
theorem drop_shown {k : Nat} (hk : k ≤ (horizon.shown now certificates).length) :
    (horizon.shown now certificates).drop k = horizon.shown now (certificates.drop k) := by
  unfold shown at hk ⊢
  induction certificates generalizing k with
  | nil => simp
  | cons c rest ih =>
    cases k with
    | zero => rfl
    | succ k =>
      rcases hcovers : horizon.covers now c with _ | _
      · rw [List.takeWhile_cons_of_neg (by simp [hcovers])] at hk
        exact absurd hk (by simp)
      · rw [List.takeWhile_cons_of_pos hcovers] at hk ⊢
        exact ih (Nat.le_of_succ_le_succ hk)

end Horizon

namespace Expiry

/-! ## One certificate after another -/

namespace Cursor

/-- **What a cursor does next**: it has ended before, it ends behind the last certificate, it ends
behind one that the horizon does not admit, or it goes one certificate further.

**Proof sketch.** By the tests of `next`, on the fields of the cursor: whether it has ended, whether
any certificate is ahead, and whether the horizon covers the first of them. -/
theorem next_cases (c : Cursor) :
    (c.hasEnded = true ∧ c.next = (none, c)) ∨
      (c.hasEnded = false ∧ c.ahead = [] ∧ c.next = (none, { c with hasEnded := true })) ∨
      ∃ first rest, c.hasEnded = false ∧ c.ahead = first :: rest ∧
        (c.horizon.covers c.now first = false ∧
            c.next = (none, { c with ahead := rest, hasEnded := true }) ∨
          c.horizon.covers c.now first = true ∧ c.next = (some first, { c with ahead := rest })) := by
  obtain ⟨ahead, now, horizon, hasEnded⟩ := c
  cases hasEnded with
  | true => exact .inl ⟨rfl, rfl⟩
  | false =>
    cases ahead with
    | nil => exact .inr (.inl ⟨rfl, rfl, rfl⟩)
    | cons first rest =>
      refine .inr (.inr ⟨first, rest, rfl, rfl, ?_⟩)
      cases hcovers : horizon.covers now first with
      | false => exact .inl ⟨rfl, by simp [next, hcovers]⟩
      | true => exact .inr ⟨rfl, by simp [next, hcovers]⟩

/-- A cursor that finds none has ended then. -/
theorem hasEnded_of_next_none {c d : Cursor} (h : c.next = (none, d)) :
    (d.now = c.now ∧ d.horizon = c.horizon) ∧ d.hasEnded = true := by
  obtain ⟨hend, hnext⟩ | ⟨-, -, hnext⟩ | ⟨first, rest, -, -, ⟨-, hnext⟩ | ⟨-, hnext⟩⟩ :=
    next_cases c
  all_goals cases h.symm.trans hnext
  · exact ⟨⟨rfl, rfl⟩, hend⟩
  · exact ⟨⟨rfl, rfl⟩, rfl⟩
  · exact ⟨⟨rfl, rfl⟩, rfl⟩

/-- A cursor that finds one had not ended, and goes on behind it. -/
theorem eq_of_next_some {c d : Cursor} {found : Certificate} (h : c.next = (some found, d)) :
    c.hasEnded = false ∧ c.ahead = found :: d.ahead ∧ d = { c with ahead := d.ahead } := by
  obtain ⟨-, hnext⟩ | ⟨-, -, hnext⟩ | ⟨first, rest, hend, hahead, ⟨-, hnext⟩ | ⟨-, hnext⟩⟩ :=
    next_cases c
  all_goals cases h.symm.trans hnext
  exact ⟨hend, hahead, rfl⟩

/-- A cursor that has ended finds nothing. -/
theorem of_hasEnded {c : Cursor} (h : c.hasEnded = true) :
    c.next = (none, c) ∧ c.count = 0 ∧ c.atMost = 0 := by
  simp [next, count, drain, atMost, h]

/-- **One certificate after another**, until there is no next one. -/
def collect (c : Cursor) : List Certificate × Cursor :=
  match h : c.next with
  | (none, d) => ([], d)
  | (some found, d) =>
    have : d.ahead.length < c.ahead.length := by simp [(eq_of_next_some h).2.1]
    (found :: d.collect.1, d.collect.2)
  termination_by c.ahead.length

/-- **What is left is what is found until there is no more**, and the cursor is at its end then.

**Proof sketch.** By the recursion of `collect`, whose two cases are the two kinds of answers. In
each the ways to that answer are those of `next_cases`, and in all of them `drain` makes the same
tests. -/
theorem collect_eq (c : Cursor) : c.collect = (c.drain, c.atEnd) := by
  fun_induction collect c with
  | case1 c d h =>
    obtain ⟨hend, hnext⟩ | ⟨hend, hahead, hnext⟩ |
      ⟨first, rest, hend, hahead, ⟨hcovers, hnext⟩ | ⟨-, hnext⟩⟩ := next_cases c
    all_goals cases h.symm.trans hnext
    · simp [drain, atEnd, hend]
    · simp [drain, atEnd, hend, hahead]
    · simp [drain, atEnd, hend, hahead, hcovers]
  | case2 c found d h _ ih =>
    obtain ⟨-, hnext⟩ | ⟨-, -, hnext⟩ | ⟨first, rest, hend, hahead, ⟨-, hnext⟩ | ⟨hcovers, hnext⟩⟩ :=
      next_cases c
    all_goals cases h.symm.trans hnext
    rw [ih]
    simp [drain, atEnd, hend, hahead, hcovers]

end Cursor

/-! ## Several views -/

/-- **Uses of a view** that concern no other one. -/
inductive Use where
  /-- Go one certificate further. -/
  | next
  /-- Tell how many certificates there may be. -/
  | bounds
  /-- Count on a copy what is left. -/
  | count
  /-- Take all that is left. -/
  | drain

/-- **What a use tells.** -/
inductive Answer where
  /-- The next certificate, or that there is none. -/
  | next (found : Option Certificate)
  /-- How many certificates may be left, at least and at most. -/
  | bounds (least most : Nat)
  /-- How many are left. -/
  | count (left : Nat)
  /-- All that were left. -/
  | drain (rest : List Certificate)
  /-- The number of a copy. -/
  | copy (number : Nat)
  deriving DecidableEq

namespace Views

/-- **A move**: one use of the view of some number, or a copy of it. -/
inductive Move where
  /-- A use of the view. -/
  | use (number : Nat) (use : Use)
  /-- A copy of the view, behind all others. -/
  | copy (number : Nat)

section

variable {σ : Type} (use : σ → Use → Answer × σ)

/-- What a move tells, and the views after it. -/
def step (views : List σ) : Move → Option Answer × List σ
  | .use number u =>
    match views[number]? with
    | some view => (some (use view u).1, views.set number (use view u).2)
    | none => (none, views)
  | .copy number =>
    match views[number]? with
    | some view => (some (.copy views.length), views ++ [view])
    | none => (none, views)

/-- The views after some moves. -/
def after (views : List σ) : List Move → List σ
  | [] => views
  | move :: moves => after (step use views move).2 moves

/-- What some moves tell, one after another. -/
def answers (views : List σ) : List Move → List (Option Answer)
  | [] => []
  | move :: moves => (step use views move).1 :: answers (step use views move).2 moves

/-- **A move keeps the other views**: only a use of a view has an effect on it.

**Proof sketch.** By the kinds of moves. A use replaces the view of its number, if there is one, and
a copy is put behind all views. -/
theorem getElem?_step {views : List σ} (move : Move) {i : Nat} {view : σ}
    (h : views[i]? = some view) : (step use views move).2[i]? = some view ∨
      ∃ u, move = .use i u ∧ (step use views move).2[i]? = some (use view u).2 := by
  have hlt : i < views.length := (List.getElem?_eq_some_iff.mp h).1
  cases move with
  | use number u =>
    by_cases heq : number = i
    · subst heq
      refine .inr ⟨u, rfl, ?_⟩
      simp only [step, h]
      exact List.getElem?_set_self hlt
    · refine .inl ?_
      cases hview : views[number]? with
      | none => simpa [step, hview] using h
      | some other => simpa [step, hview, List.getElem?_set_ne heq] using h
  | copy number =>
    refine .inl ?_
    cases hview : views[number]? with
    | none => simpa [step, hview] using h
    | some other => simpa [step, hview, List.getElem?_append_left hlt] using h

variable {use}

/-- **What all uses of a view respect, all moves respect.** -/
theorem exists_getElem?_after {R : σ → σ → Prop} (hrefl : ∀ a, R a a)
    (htrans : ∀ a b c, R a b → R b c → R a c) (huse : ∀ a u, R a (use a u).2) {views : List σ}
    {i : Nat} {view : σ} (h : views[i]? = some view) (moves : List Move) :
    ∃ later, (after use views moves)[i]? = some later ∧ R view later := by
  induction moves generalizing views view with
  | nil => exact ⟨view, h, hrefl view⟩
  | cons move moves ih =>
    rcases getElem?_step use move h with hsame | ⟨u, -, hused⟩
    · exact ih hsame
    · obtain ⟨later, hlater, hR⟩ := ih hused
      exact ⟨later, hlater, htrans _ _ _ (huse view u) hR⟩

/-- A view that is not used stays as it is, whatever the others do. -/
theorem getElem?_after {views : List σ} {i : Nat} {view : σ} (h : views[i]? = some view)
    {moves : List Move} (hother : ∀ u, Move.use i u ∉ moves) :
    (after use views moves)[i]? = some view := by
  induction moves generalizing views with
  | nil => exact h
  | cons move moves ih =>
    rcases getElem?_step use move h with hsame | ⟨u, rfl, -⟩
    · exact ih hsame fun u hu => hother u (List.mem_cons_of_mem _ hu)
    · exact absurd List.mem_cons_self (hother u)

end

/-! ## Two kinds of views that agree -/

section

variable {σ τ : Type} {R : σ → τ → Prop} {views : List σ} {others : List τ}

/-- Related views stand at the same number. -/
theorem forall₂_getElem? (h : List.Forall₂ R views others) (i : Nat) :
    (views[i]? = none ∧ others[i]? = none) ∨
      ∃ a b, views[i]? = some a ∧ others[i]? = some b ∧ R a b := by
  induction h generalizing i with
  | nil => exact .inl ⟨rfl, rfl⟩
  | cons hab _ ih =>
    cases i with
    | zero => exact .inr ⟨_, _, rfl, rfl, hab⟩
    | succ i => exact ih i

/-- Views stay related when related ones are put at one number. -/
theorem forall₂_set (h : List.Forall₂ R views others) {a : σ} {b : τ} (hab : R a b) (i : Nat) :
    List.Forall₂ R (views.set i a) (others.set i b) := by
  induction h generalizing i with
  | nil => exact .nil
  | cons hfirst hrest ih =>
    cases i with
    | zero => exact .cons hab hrest
    | succ i => exact .cons hfirst (ih i)

variable {f : σ → Use → Answer × σ} {g : τ → Use → Answer × τ}
  (huse : ∀ a b, R a b → ∀ u, (f a u).1 = (g b u).1 ∧ R (f a u).2 (g b u).2)

include huse

/-- **Views that agree on every use agree on every move.**

**Proof sketch.** By the kinds of moves. Two lists that are related have a view of a number both or
neither (`forall₂_getElem?`). A use keeps the relation of its two views by hypothesis and touches no
others; a copy adds two related ones. -/
theorem step_eq (h : List.Forall₂ R views others) (move : Move) :
    (step f views move).1 = (step g others move).1 ∧
      List.Forall₂ R (step f views move).2 (step g others move).2 := by
  cases move with
  | use number u =>
    obtain ⟨hnone, hnone'⟩ | ⟨a, b, ha, hb, hab⟩ := forall₂_getElem? h number
    · simp [step, hnone, hnone', h]
    · obtain ⟨hanswer, hafter⟩ := huse a b hab u
      simp only [step, ha, hb]
      exact ⟨congrArg some hanswer, forall₂_set h hafter number⟩
  | copy number =>
    obtain ⟨hnone, hnone'⟩ | ⟨a, b, ha, hb, hab⟩ := forall₂_getElem? h number
    · simp [step, hnone, hnone', h]
    · refine ⟨by simp [step, ha, hb, h.length_eq], ?_⟩
      simp only [step, ha, hb]
      exact List.rel_append h (.cons hab .nil)

/-- They stay related. -/
theorem forall₂_after (h : List.Forall₂ R views others) (moves : List Move) :
    List.Forall₂ R (after f views moves) (after g others moves) := by
  induction moves generalizing views others with
  | nil => exact h
  | cons move moves ih => exact ih (step_eq huse h move).2

/-- **Views that agree on every use agree on every run.** -/
theorem answers_eq (h : List.Forall₂ R views others) (moves : List Move) :
    answers f views moves = answers g others moves := by
  induction moves generalizing views others with
  | nil => rfl
  | cons move moves ih =>
    obtain ⟨hanswer, hafter⟩ := step_eq huse h move
    rw [answers, answers, hanswer, ih hafter]

end

end Views

/-! ## Cursors are places -/

/-- What a use of a cursor tells, and the cursor after it. -/
def Cursor.use (c : Cursor) : Use → Answer × Cursor
  | .next => (.next c.next.1, c.next.2)
  | .bounds => (.bounds 0 c.atMost, c)
  | .count => (.count c.count, c)
  | .drain => (.drain c.drain, c.atEnd)

/-- **A place** among the certificates that are shown. -/
structure Place where
  /-- How many certificates have been passed. -/
  passed : Nat
  /-- Whether it was found that there are no more. -/
  hasEnded : Bool

namespace Place

/-- **What a use of a place tells**, and the place after it. -/
def use (shown : List Certificate) (size : Nat) (p : Place) : Use → Answer × Place
  | .next =>
    (.next shown[p.passed]?,
      if p.passed < shown.length then { p with passed := p.passed + 1 }
      else { p with hasEnded := true })
  | .bounds => (.bounds 0 (if p.hasEnded then 0 else size - p.passed), p)
  | .count => (.count (shown.length - p.passed), p)
  | .drain => (.drain (shown.drop p.passed), ⟨shown.length, true⟩)

end Place

namespace Cursor

/-- A cursor that is at its end has ended. -/
theorem atEnd_fixed (c : Cursor) :
    (c.atEnd.now = c.now ∧ c.atEnd.horizon = c.horizon) ∧ c.atEnd.hasEnded = true := by
  unfold atEnd
  split
  · exact ⟨⟨rfl, rfl⟩, ‹_›⟩
  · exact ⟨⟨rfl, rfl⟩, rfl⟩

/-- A cursor that has ended has ended for good. -/
theorem hasEnded_use {c : Cursor} (h : c.hasEnded = true) (u : Use) :
    (c.use u).2.hasEnded = true := by
  cases u with
  | next => simpa [use, (of_hasEnded h).1] using h
  | bounds => exact h
  | count => exact h
  | drain => exact c.atEnd_fixed.2

/-- **A cursor that is at a place.** -/
structure StandsAt (certificates : List Certificate) (now : Int64) (horizon : Horizon) (c : Cursor)
    (p : Place) : Prop where
  /-- Its moment and its horizon do not change. -/
  fixed : c.now = now ∧ c.horizon = horizon
  /-- It has ended if the place has. -/
  hasEnded : c.hasEnded = p.hasEnded
  /-- It has not looked at what is behind the place. -/
  ahead : p.hasEnded = false → c.ahead = certificates.drop p.passed
  /-- It has passed nothing that is not shown. -/
  passed : p.passed ≤ (horizon.shown now certificates).length
  /-- It has not ended in front of anything that is shown. -/
  all : p.hasEnded = true → p.passed = (horizon.shown now certificates).length

/-- At first a cursor has passed nothing. -/
theorem standsAt_start (certificates : List Certificate) (now : Int64) (horizon : Horizon) :
    StandsAt certificates now horizon (start certificates now horizon) ⟨0, false⟩ where
  fixed := ⟨rfl, rfl⟩
  hasEnded := rfl
  ahead := fun _ => rfl
  passed := Nat.zero_le _
  all := nofun

namespace StandsAt

variable {certificates : List Certificate} {now : Int64} {horizon : Horizon} {c : Cursor}
  {p : Place}

/-- What is left for a cursor is what is shown behind its place. -/
theorem drain_eq (h : StandsAt certificates now horizon c p) :
    c.drain = (horizon.shown now certificates).drop p.passed := by
  unfold drain
  cases hend : p.hasEnded with
  | true => rw [h.hasEnded, hend, h.all hend, List.drop_length, if_pos rfl]
  | false =>
    rw [h.hasEnded, hend, h.ahead hend, h.fixed.1, h.fixed.2, Horizon.drop_shown h.passed]
    rfl

/-- As many certificates are left as are shown and not passed. -/
theorem count_eq (h : StandsAt certificates now horizon c p) :
    c.count = (horizon.shown now certificates).length - p.passed := by
  rw [count, h.drain_eq, List.length_drop]

/-- How many may be left at most. -/
theorem atMost_eq (h : StandsAt certificates now horizon c p) :
    c.atMost = if p.hasEnded then 0 else certificates.length - p.passed := by
  unfold atMost
  rw [h.hasEnded]
  cases hend : p.hasEnded with
  | true => rfl
  | false =>
    simp [h.ahead hend]

/-- No more are left than a cursor tells. -/
theorem le_atMost (h : StandsAt certificates now horizon c p) :
    (horizon.shown now certificates).length - p.passed ≤ c.atMost := by
  have hle : (horizon.shown now certificates).length ≤ certificates.length :=
    (List.takeWhile_sublist _).length_le
  rw [h.atMost_eq]
  cases hend : p.hasEnded with
  | true => simp [h.all hend]
  | false => simpa using Nat.sub_le_sub_right hle p.passed

/-- **The next certificate** is the first one that is shown and not passed. -/
theorem next_eq (h : StandsAt certificates now horizon c p) :
    c.next.1 = (horizon.shown now certificates)[p.passed]? := by
  rw [← List.head?_drop, ← h.drain_eq]
  rcases hnext : c.next with ⟨_ | found, d⟩
  · rw [(drain_of_next_none hnext).1]
    rfl
  · rw [drain_of_next_some hnext]
    rfl

/-- A cursor that has ended has passed all that are shown. -/
theorem ended {d : Cursor} (h : StandsAt certificates now horizon c p)
    (hfixed : d.now = c.now ∧ d.horizon = c.horizon) (hend : d.hasEnded = true) {q : Place}
    (hended : q.hasEnded = true) (hall : q.passed = (horizon.shown now certificates).length) :
    StandsAt certificates now horizon d q where
  fixed := ⟨hfixed.1.trans h.fixed.1, hfixed.2.trans h.fixed.2⟩
  hasEnded := hend.trans hended.symm
  ahead := fun hnot => absurd (hended.symm.trans hnot) (by simp)
  passed := hall.le
  all := fun _ => hall

/-- **A cursor goes to the next place**: one certificate further, or to the end.

**Proof sketch.** Along the answer of the cursor, which is the certificate behind those that were
passed (`next_eq`). With none, as many were passed as are shown, and the cursor has ended. With one,
it is the head of what is ahead, and the number grows by one. -/
theorem next (h : StandsAt certificates now horizon c p) :
    StandsAt certificates now horizon c.next.2
      (p.use (horizon.shown now certificates) certificates.length .next).2 := by
  have hfound := h.next_eq
  rcases hnext : c.next with ⟨_ | found, d⟩
  · rw [hnext] at hfound
    have hge := List.getElem?_eq_none_iff.mp hfound.symm
    obtain ⟨hfixed, hend⟩ := hasEnded_of_next_none hnext
    rw [Place.use, if_neg (Nat.not_lt.mpr hge)]
    exact h.ended hfixed hend rfl (Nat.le_antisymm h.passed hge)
  · rw [hnext] at hfound
    have hlt := (List.getElem?_eq_some_iff.mp hfound.symm).1
    obtain ⟨hend, hahead, hsame⟩ := eq_of_next_some hnext
    have hplace : p.hasEnded = false := h.hasEnded.symm.trans hend
    have hdrop : d.ahead = certificates.drop (p.passed + 1) := by
      rw [← List.tail_drop, ← h.ahead hplace, hahead]
      rfl
    rw [Place.use, if_pos hlt]
    exact
      { fixed := by rw [hsame]; exact h.fixed
        hasEnded := by rw [hsame]; exact h.hasEnded
        ahead := fun _ => hdrop
        passed := hlt
        all := fun hended => absurd (hplace.symm.trans hended) (by simp) }

/-- **Cursors and their places agree on every use.** -/
theorem use (h : StandsAt certificates now horizon c p) (u : Use) :
    (c.use u).1 = (p.use (horizon.shown now certificates) certificates.length u).1 ∧
      StandsAt certificates now horizon (c.use u).2
        (p.use (horizon.shown now certificates) certificates.length u).2 := by
  cases u with
  | next => exact ⟨congrArg Answer.next h.next_eq, h.next⟩
  | bounds => exact ⟨congrArg (Answer.bounds 0) h.atMost_eq, h⟩
  | count => exact ⟨congrArg Answer.count h.count_eq, h⟩
  | drain =>
    have hend := c.atEnd_fixed
    exact ⟨congrArg Answer.drain h.drain_eq, h.ended hend.1 hend.2 rfl rfl⟩

end StandsAt

/-- At first all cursors have passed nothing. -/
theorem forall₂_starts (certificates : List Certificate) (now : Int64) (horizon : Horizon) (n : Nat) :
    List.Forall₂ (StandsAt certificates now horizon)
      (.replicate n (start certificates now horizon)) (.replicate n ⟨0, false⟩) := by
  refine List.forall₂_iff_get.mpr ⟨by simp, fun i hi _ => ?_⟩
  simpa using standsAt_start certificates now horizon

/-- **What ends stays ended**: a cursor that finds none finds none after any further moves.

**Proof sketch.** The answer without a certificate marks the cursor as ended
(`hasEnded_of_next_none`). No use takes the mark away (`hasEnded_use`), and nothing but uses reaches
the cursor (`Views.exists_getElem?_after`); with the mark every answer is empty (`of_hasEnded`). -/
theorem exists_ended_after {cursors : List Cursor} {i : Nat} {c : Cursor} (h : cursors[i]? = some c)
    (hnone : c.next.1 = none) (more : List Views.Move) :
    ∃ d : Cursor, (Views.after use cursors (.use i .next :: more))[i]? = some d ∧
      d.next.1 = none ∧ d.count = 0 ∧ d.atMost = 0 := by
  have hlt : i < cursors.length := (List.getElem?_eq_some_iff.mp h).1
  have hend : c.next.2.hasEnded = true :=
    (hasEnded_of_next_none (Prod.ext hnone rfl : c.next = (none, c.next.2))).2
  have hused : (Views.step use cursors (.use i .next)).2[i]? = some c.next.2 := by
    simp only [Views.step, h]
    exact List.getElem?_set_self hlt
  obtain ⟨d, hd, hlater⟩ := Views.exists_getElem?_after
    (R := fun a b : Cursor => a.hasEnded = true → b.hasEnded = true) (fun _ => id)
    (fun _ _ _ hab hbc ha => hbc (hab ha)) (fun _ u ha => hasEnded_use ha u) hused more
  obtain ⟨hnext, hcount, hmost⟩ := of_hasEnded (hlater hend)
  exact ⟨d, hd, by rw [hnext], hcount, hmost⟩

/-- **Cursors side by side.** Of an inventory in any order the horizon shows its longest beginning
that it admits as a whole, and in the order of expiry all that it admits. Let any number of cursors
start on it, and let them be used and copied in any order.

They answer as so many numbers would that count the certificates passed: the next one is the one
behind these, what is left is counted and taken likewise, and it is never more than a cursor tells.
To take what is left is to take one after another. A cursor that finds none finds none ever after,
whatever is done, and tells that there is none. A cursor is changed by its own uses only, and a copy
starts where the other one is.

**Proof sketch.** A cursor stands at a place if the number counts what it has passed (`StandsAt`).
All cursors start at place zero, every use keeps this and has the same answer (`StandsAt.use`), and
so do all moves (`Views.answers_eq`, `Views.forall₂_after`). The rest is read off a cursor that
stands at its place, and the end of one is `exists_ended_after`. -/
theorem answers_eq_places (certificates : List Certificate) (now : Int64) (horizon : Horizon)
    (n : Nat) (moves : List Views.Move) :
    let shown := horizon.shown now certificates
    let starts := List.replicate n (start certificates now horizon)
    let cursors := Views.after use starts moves
    let places := Views.after (Place.use shown certificates.length) (.replicate n ⟨0, false⟩) moves
    (shown <+: certificates ∧ (∀ c ∈ shown, horizon.covers now c = true) ∧
        ∀ first, first <+: certificates → (∀ c ∈ first, horizon.covers now c = true) →
          first <+: shown) ∧
      (Ascending certificates → shown = certificates.filter (horizon.covers now)) ∧
      Views.answers use starts moves =
        Views.answers (Place.use shown certificates.length) (.replicate n ⟨0, false⟩) moves ∧
      cursors.length = places.length ∧
      ∀ (i : Nat) (c : Cursor), cursors[i]? = some c →
        (∃ p : Place, places[i]? = some p ∧ p.passed ≤ shown.length ∧
          c.next.1 = shown[p.passed]? ∧ c.count = shown.length - p.passed ∧
          c.drain = shown.drop p.passed ∧ c.collect = (c.drain, c.atEnd) ∧
          shown.length - p.passed ≤ c.atMost ∧
          (p.hasEnded = true → p.passed = shown.length ∧ c.atMost = 0)) ∧
        (c.next.1 = none → ∀ more, ∃ d : Cursor,
          (Views.after use cursors (.use i .next :: more))[i]? = some d ∧
            d.next.1 = none ∧ d.count = 0 ∧ d.atMost = 0) ∧
        (∀ more, (∀ u, Views.Move.use i u ∉ more) →
          (Views.after use cursors more)[i]? = some c) ∧
        Views.step use cursors (.copy i) = (some (.copy cursors.length), cursors ++ [c]) := by
  intro shown starts cursors places
  have hstart : List.Forall₂ (StandsAt certificates now horizon) starts
      (.replicate n ⟨0, false⟩) := forall₂_starts certificates now horizon n
  have huse : ∀ c p, StandsAt certificates now horizon c p → ∀ u,
      (c.use u).1 = (p.use shown certificates.length u).1 ∧
        StandsAt certificates now horizon (c.use u).2 (p.use shown certificates.length u).2 :=
    fun _ _ h u => h.use u
  have hafter : List.Forall₂ (StandsAt certificates now horizon) cursors places :=
    Views.forall₂_after huse hstart moves
  refine ⟨⟨List.takeWhile_prefix _, fun c hc => List.mem_takeWhile_imp hc,
      fun first hfirst hcovers => Horizon.prefix_shown hfirst hcovers⟩,
    fun hsorted => drain_start hsorted now horizon,
    Views.answers_eq huse hstart moves, hafter.length_eq,
    fun i c hc => ⟨?_, exists_ended_after hc, fun more hother => Views.getElem?_after hc hother,
      by simp only [Views.step, hc]⟩⟩
  obtain ⟨hnone, -⟩ | ⟨a, p, ha, hp, h⟩ := Views.forall₂_getElem? hafter i
  · exact absurd (hc.symm.trans hnone) (by simp)
  · obtain rfl := Option.some_inj.mp (ha.symm.trans hc)
    refine ⟨p, hp, h.passed, h.next_eq, h.count_eq, h.drain_eq, a.collect_eq, h.le_atMost,
      fun hend => ⟨h.all hend, ?_⟩⟩
    rw [h.atMost_eq, hend, if_pos rfl]

/-- Behind a certificate that it does not admit, a horizon shows nothing; a copy goes on by
itself. -/
example : Views.answers use
    [start [⟨"soon", 5, []⟩, ⟨"late", 500, []⟩, ⟨"early", 6, []⟩] 0 (.within 100)]
    [.copy 0, .use 1 .next, .use 1 .next, .use 1 .next, .use 1 .bounds, .use 0 .bounds,
      .use 0 .count] =
    [some (.copy 1), some (.next (some ⟨"soon", 5, []⟩)), some (.next none), some (.next none),
      some (.bounds 0 0), some (.bounds 0 3), some (.count 1)] := by
  decide

end Cursor

end Expiry

end CertDashboard
