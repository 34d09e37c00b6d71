import CertDashboard.Expiry.Remaining

set_option autoImplicit false
set_option relaxedAutoImplicit false

/-!
# Days and the ends of days, exactly

Times stop at the ends of their range. Here is what that leaves of the days that remain and of the
last second of a day: integers and one ceiling.

## Main definitions

* `CertDashboard.Expiry.reach` — how far ahead the end of a day is in the range of times.

## Main results

* `CertDashboard.Expiry.daysRemaining_eq` — the days that remain, as started days up to a ceiling.
* `CertDashboard.Expiry.toInt_dayEnd` — the last second of such a day.
* `CertDashboard.Expiry.le_dayEnd_iff` — within reach, the last second of a day divides the times by
  the days that remain.
-/

namespace CertDashboard

namespace Expiry

/-- **Reach**: the seconds of the most whole days that are in the range of times. -/
def reach : Int := 9223372036854720000

/-- Seconds between a moment and an expiry, exactly. -/
theorem toInt_secondsRemaining (notAfter now : Int64) : (secondsRemaining notAfter now).toInt =
    max (-0x8000000000000000) (min (notAfter.toInt - now.toInt) 0x7fffffffffffffff) :=
  toInt_clamp _

/-- A later expiry leaves no less time. -/
theorem secondsRemaining_mono {a b : Int64} (h : a ≤ b) (now : Int64) :
    secondsRemaining a now ≤ secondsRemaining b now := by
  have hab := Int64.le_iff_toInt_le.mp h
  rw [Int64.le_iff_toInt_le, toInt_secondsRemaining, toInt_secondsRemaining]
  omega

/-- **The days that remain**: the days that were started until then, rounded up and no more than
there are in the range of times, less one. -/
theorem daysRemaining_eq (notAfter now : Int64) : daysRemaining notAfter now =
    min (max 0 ((notAfter.toInt - now.toInt + 86399) / 86400)) 106751991167300 - 1 := by
  have hseconds := toInt_secondsRemaining notAfter now
  have hstarted := toInt_clamp ((secondsRemaining notAfter now).toInt + 86399)
  simp only [daysRemaining, secondsPerDay]
  rw [show (86400 : Int) - 1 = 86399 from rfl]
  split
  · omega
  · omega

/-- The days that remain are `-1` at least and no more than the range of times has. -/
theorem daysRemaining_bounds (notAfter now : Int64) :
    -1 ≤ daysRemaining notAfter now ∧ daysRemaining notAfter now ≤ 106751991167299 := by
  have h := daysRemaining_eq notAfter now
  omega

/-- A later expiry leaves no fewer days. -/
theorem daysRemaining_mono {a b : Int64} (h : a ≤ b) (now : Int64) :
    daysRemaining a now ≤ daysRemaining b now := by
  have hab := Int64.le_iff_toInt_le.mp h
  have ha := daysRemaining_eq a now
  have hb := daysRemaining_eq b now
  omega

/-- **The last second of the day of an expiry**: so many days behind the moment, if the range of
times has it. -/
theorem toInt_dayEnd (notAfter now : Int64) : (dayEnd (daysRemaining notAfter now) now).toInt =
    min 0x7fffffffffffffff (now.toInt + (daysRemaining notAfter now + 1) * 86400) := by
  obtain ⟨hlow, hhigh⟩ := daysRemaining_bounds notAfter now
  obtain ⟨hmin, hmax⟩ := toInt_bounds now
  unfold dayEnd secondsPerDay
  rw [toInt_clamp, toInt_clamp]
  omega

/-- **The last second of a day divides the times**: within reach, a time is not past it if and only
if no more days remain. -/
theorem le_dayEnd_iff {a b now : Int64} (ha : a.toInt - now.toInt ≤ reach) :
    a ≤ dayEnd (daysRemaining b now) now ↔ daysRemaining a now ≤ daysRemaining b now := by
  obtain ⟨hmin, hmax⟩ := toInt_bounds a
  have hdays := daysRemaining_eq a now
  have hbounds := daysRemaining_bounds b now
  unfold reach at ha
  rw [Int64.le_iff_toInt_le, toInt_dayEnd]
  omega

/-- Within reach, a time is not past the last second of its own day. -/
theorem le_dayEnd {a now : Int64} (ha : a.toInt - now.toInt ≤ reach) :
    a ≤ dayEnd (daysRemaining a now) now :=
  (le_dayEnd_iff ha).mpr (Int.le_refl _)

end Expiry

/-- A certificate is shown if one that expires later is. -/
theorem Horizon.covers_of_le {horizon : Horizon} {now : Int64} {a b : Certificate}
    (h : a.notAfter ≤ b.notAfter) (hb : horizon.covers now b = true) :
    horizon.covers now a = true := by
  have hseconds := Int64.le_iff_toInt_le.mp (Expiry.secondsRemaining_mono h now)
  cases horizon with
  | unbounded => rfl
  | within limit =>
    have hlimit := Int64.le_iff_toInt_le.mp (of_decide_eq_true hb)
    exact decide_eq_true (Int64.le_iff_toInt_le.mpr (by omega))

end CertDashboard
