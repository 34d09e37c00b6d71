import CertDashboard.Color
import CertDashboard.Expiry.Cursor
import CertDashboard.Expiry.Label

set_option autoImplicit false
set_option relaxedAutoImplicit false

/-!
# Bands of certificates that expire on one day

## Main definitions

* `CertDashboard.Expiry.Band` — certificates under one header, in one color.
* `CertDashboard.Expiry.bands` — a sequence of certificates cut into bands.
* `CertDashboard.Expiry.bandsWithin` — the bands of an inventory within a horizon.

## Main results

* `CertDashboard.Expiry.flatMap_bands` — the bands hold the certificates, in order.

## Design

The first certificate opens a band, and those that follow it join the band as long as they are not
past its cutoff, which is the end of the day of the one that opened it. The first one past the
cutoff opens the next band.
-/

namespace CertDashboard

namespace Expiry

/-- **A band**: certificates under one header, in one color. -/
structure Band where
  /-- Header. -/
  label : String
  /-- Latest expiry that belongs to the band. -/
  cutoff : Int64
  /-- Color on the gradient. -/
  color : Rgb Float
  /-- Certificates, in order. -/
  certificates : List Certificate

/-- The band that a certificate opens, as yet empty. -/
def Band.opened (now : Int64) (c : Certificate) : Band :=
  let days := daysRemaining c.notAfter now
  ⟨Expiry.label days, dayEnd days now, Rgb.gradient (Float.ofInt days), []⟩

/-- **The bands of a sequence of certificates.** -/
def bands (now : Int64) (certificates : List Certificate) : List Band :=
  match certificates with
  | [] => []
  | c :: rest =>
    let opened := Band.opened now c
    { opened with certificates := c :: rest.takeWhile fun d => decide (d.notAfter ≤ opened.cutoff) }
      :: bands now (rest.dropWhile fun d => decide (d.notAfter ≤ opened.cutoff))
  termination_by certificates.length
  decreasing_by
    have := (List.dropWhile_sublist (l := rest)
      (p := fun d => decide (d.notAfter ≤ (Band.opened now c).cutoff))).length_le
    simp only [List.length_cons]
    omega

/-- **The bands of an inventory within a horizon.** -/
def bandsWithin (now : Int64) (horizon : Horizon) (certificates : List Certificate) : List Band :=
  bands now (Cursor.start certificates now horizon).drain

/-- No certificates, no bands. -/
@[simp] theorem bands_nil (now : Int64) : bands now [] = [] := by
  rw [bands]

/-- The bands hold the certificates, in order. -/
theorem flatMap_bands (now : Int64) (certificates : List Certificate) :
    (bands now certificates).flatMap Band.certificates = certificates := by
  induction h : certificates.length using Nat.strongRecOn generalizing certificates with
  | _ n ih =>
    cases certificates with
    | nil => simp
    | cons c rest =>
      rw [bands]
      have hle := (List.dropWhile_sublist (l := rest)
        (p := fun d => decide (d.notAfter ≤ (Band.opened now c).cutoff))).length_le
      simp only [List.length_cons] at h
      have htail := ih _ (by omega) (rest.dropWhile fun d =>
        decide (d.notAfter ≤ (Band.opened now c).cutoff)) rfl
      simp only [List.flatMap_cons, htail, List.cons_append, List.takeWhile_append_dropWhile]

end Expiry

end CertDashboard
