import CertDashboard.Certificate

set_option autoImplicit false
set_option relaxedAutoImplicit false

/-!
# Time that remains

Times are signed seconds of 64 bits. Their sums, differences and products stop at the two ends of
that range.

## Main definitions

* `CertDashboard.Expiry.clamp` — an integer brought into the range.
* `CertDashboard.Expiry.secondsRemaining` — seconds between a moment and an expiry.
* `CertDashboard.Expiry.daysRemaining` — whole days, the current one counted as spent.
* `CertDashboard.Expiry.dayEnd` — the last second of a day, counted from a moment.
* `CertDashboard.Horizon` — how far ahead certificates are shown, and `Horizon.admits`.

## Main results

* `CertDashboard.Expiry.toInt_clamp` — `clamp` keeps what is in the range and goes to the nearer
  end otherwise.
-/

namespace CertDashboard

namespace Expiry

/-- Seconds of a day. -/
def secondsPerDay : Int := 86400

/-- **Clamp**: an integer brought into the range of 64 bits. -/
def clamp (i : Int) : Int64 :=
  Int64.ofIntClamp i

/-- What is in the range is kept; all else goes to the nearer end.

**Proof sketch.** Within the range the conversion of the library keeps the integer
(`Int64.toInt_ofIntClamp`). Below and above it the two tests of that conversion fail, and the value
is the end itself. -/
theorem toInt_clamp (i : Int) :
    (clamp i).toInt = max (-0x8000000000000000) (min i 0x7fffffffffffffff) := by
  have hmin : Int64.minValue.toInt = -0x8000000000000000 := Int64.toInt_minValue
  have hmax : Int64.maxValue.toInt = 0x7fffffffffffffff := Int64.toInt_maxValue
  by_cases hlow : Int64.minValue.toInt ≤ i
  · by_cases hhigh : i ≤ Int64.maxValue.toInt
    · rw [clamp, Int64.toInt_ofIntClamp hlow hhigh]
      omega
    · have h : clamp i = Int64.maxValue := by
        rw [clamp, Int64.ofIntClamp, dif_pos hlow, dif_neg hhigh]
      rw [h, hmax]
      omega
  · have h : clamp i = Int64.minValue := by
      rw [clamp, Int64.ofIntClamp, dif_neg hlow]
    rw [h, hmin]
    omega

/-- Every time is in the range. -/
theorem toInt_bounds (t : Int64) :
    -0x8000000000000000 ≤ t.toInt ∧ t.toInt ≤ 0x7fffffffffffffff := by
  have hlow := t.le_toInt
  have hhigh := t.toInt_lt
  exact ⟨hlow, by omega⟩

/-- **Seconds between a moment and an expiry**; negative once expired. -/
def secondsRemaining (notAfter now : Int64) : Int64 :=
  clamp (notAfter.toInt - now.toInt)

/-- **Days between a moment and an expiry**: started days less one, as the current day counts as
spent; `-1` once expired. -/
def daysRemaining (notAfter now : Int64) : Int :=
  let seconds := (secondsRemaining notAfter now).toInt
  let started := if seconds ≤ 0 then 0
    else (clamp (seconds + (secondsPerDay - 1))).toInt / secondsPerDay
  started - 1

/-- **The last second of a day**, counted from a moment. -/
def dayEnd (days : Int) (now : Int64) : Int64 :=
  clamp (now.toInt + (clamp ((days + 1) * secondsPerDay)).toInt)

end Expiry

/-- **Horizon**: how far ahead certificates are shown. -/
inductive Horizon where
  /-- Certificates that expire within this many seconds. -/
  | within (seconds : Int64)
  /-- All certificates. -/
  | unbounded
  deriving DecidableEq, Repr

namespace Horizon

/-- A horizon of whole days. -/
def ofDays (days : UInt32) : Horizon :=
  .within (Expiry.clamp (days.toNat * Expiry.secondsPerDay))

/-- Ninety days. -/
def standard : Horizon :=
  .ofDays 90

/-- **Whether a certificate is shown** of which so many seconds remain. -/
def admits (h : Horizon) (seconds : Int64) : Bool :=
  match h with
  | .within limit => decide (seconds ≤ limit)
  | .unbounded => true

/-- Whether a certificate is shown at a moment. -/
def covers (h : Horizon) (now : Int64) (c : Certificate) : Bool :=
  h.admits (Expiry.secondsRemaining c.notAfter now)

end Horizon

end CertDashboard
