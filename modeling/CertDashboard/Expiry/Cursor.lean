import CertDashboard.Expiry.Remaining

set_option autoImplicit false
set_option relaxedAutoImplicit false

/-!
# Cursors over the certificates within a horizon

A cursor goes through an inventory that is in the order of expiry. The first certificate that the
horizon does not admit ends it, for good.

## Main definitions

* `CertDashboard.Expiry.Cursor` — a place in an inventory, with a moment and a horizon.
* `CertDashboard.Expiry.Cursor.next` — one certificate further.
* `CertDashboard.Expiry.Cursor.drain` — all certificates that are left.

## Main results

* `CertDashboard.Expiry.Cursor.drain_of_next_some`, `drain_of_next_none` — draining is going on
  until there is no next one.
-/

namespace CertDashboard

namespace Expiry

/-- **A cursor.** Once it has found no next certificate it has ended. -/
structure Cursor where
  /-- Certificates that it has not looked at. -/
  ahead : List Certificate
  /-- The moment from which remaining time is counted. -/
  now : Int64
  /-- The horizon. -/
  horizon : Horizon
  /-- Whether it has ended. -/
  hasEnded : Bool
  deriving DecidableEq

namespace Cursor

/-- A cursor at the start of an inventory. -/
def start (certificates : List Certificate) (now : Int64) (horizon : Horizon) : Cursor :=
  ⟨certificates, now, horizon, false⟩

/-- **The next certificate**, if there is one, and the cursor behind it. -/
def next (c : Cursor) : Option Certificate × Cursor :=
  if c.hasEnded then (none, c)
  else
    match c.ahead with
    | [] => (none, { c with hasEnded := true })
    | certificate :: rest =>
      if c.horizon.covers c.now certificate then (some certificate, { c with ahead := rest })
      else (none, { c with ahead := rest, hasEnded := true })

/-- The greatest number of certificates that may be left: all that it has not looked at. -/
def atMost (c : Cursor) : Nat :=
  if c.hasEnded then 0 else c.ahead.length

/-- **All certificates that are left**, in order. -/
def drain (c : Cursor) : List Certificate :=
  if c.hasEnded then [] else c.ahead.takeWhile (c.horizon.covers c.now)

/-- The number of certificates that are left. -/
def count (c : Cursor) : Nat :=
  c.drain.length

/-- The cursor when nothing is left. -/
def atEnd (c : Cursor) : Cursor :=
  if c.hasEnded then c
  else { c with ahead := (c.ahead.dropWhile (c.horizon.covers c.now)).tail, hasEnded := true }

/-- What is left starts with the next certificate.

**Proof sketch.** Along the tests of `next`: the cursor has not ended, a certificate is ahead of it
and the horizon covers that one. These are the tests that `drain` makes of its first certificate. -/
theorem drain_of_next_some {c d : Cursor} {certificate : Certificate}
    (h : c.next = (some certificate, d)) : c.drain = certificate :: d.drain := by
  unfold next at h
  split at h
  · simp at h
  · next hend =>
    split at h
    · simp at h
    · next a rest hahead =>
      split at h
      · next hcovers =>
        simp only [Prod.mk.injEq, Option.some.injEq] at h
        obtain ⟨rfl, rfl⟩ := h
        simp [drain, hend, hahead, hcovers]
      · simp at h

/-- Nothing is left when there is no next certificate, then or later.

**Proof sketch.** The cursor answers with nothing in three cases: it had ended, nothing is ahead of
it, or the horizon does not cover what is ahead. In each of them it has ended then, so it drains to
nothing before and after. -/
theorem drain_of_next_none {c d : Cursor} (h : c.next = (none, d)) :
    c.drain = [] ∧ d.drain = [] := by
  unfold next at h
  split at h
  · next hend =>
    simp only [Prod.mk.injEq, true_and] at h
    subst h
    simp [drain, hend]
  · next hend =>
    split at h
    · next hahead =>
      simp only [Prod.mk.injEq, true_and] at h
      subst h
      simp [drain, hahead]
    · next a rest hahead =>
      split at h
      · simp at h
      · next hcovers =>
        simp only [Prod.mk.injEq, true_and] at h
        subst h
        simp [drain, hahead, hcovers]

end Cursor

end Expiry

end CertDashboard
