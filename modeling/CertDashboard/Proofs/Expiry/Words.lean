import CertDashboard.Proofs.Expiry.Bands
import CertDashboard.Proofs.Text.Doubles
import Mathlib.Data.Rat.Floor

set_option autoImplicit false
set_option relaxedAutoImplicit false

/-!
# Days in words of 64 bits

Days are computed with words. A sum, a difference or a product of seconds stops at the ends of the
range; the other steps do not, and so they must not leave it. None of them does, for any two times.

Stopping at the ends is why the days that remain are not always the started days less one: within
the last day of the range a day is lost, and with it the end of the day is in front of the expiry.

## Main definitions

* `CertDashboard.Expiry.word?` — the word of an integer, if there is one.
* `CertDashboard.Expiry.daysInWords?`, `CertDashboard.Expiry.cutoffInWords?` — the days that remain
  and the last second of a day, in words.

## Main results

* `CertDashboard.Expiry.exists_daysInWords` — in words there are as many days.
* `CertDashboard.Expiry.le_dayEnd_iff_reach` — how far ahead an expiry is in its own day.
* `CertDashboard.Expiry.daysRemaining_exact` — all of that, and the days as a double.
-/

namespace CertDashboard

namespace Expiry

/-! ## Words -/

/-- **The word of an integer**, if there is one. -/
def word? (i : Int) : Option Int64 :=
  if Int64.minValue.toInt ≤ i ∧ i ≤ Int64.maxValue.toInt then some (Int64.ofInt i) else none

/-- It is the word with that value. -/
theorem word?_eq_some_iff {i : Int} {w : Int64} : word? i = some w ↔ w.toInt = i := by
  have hmin : Int64.minValue.toInt = -2 ^ 63 := Int64.toInt_minValue
  have hmax : Int64.maxValue.toInt = 2 ^ 63 - 1 := Int64.toInt_maxValue
  unfold word?
  split
  · next h =>
    have hword : (Int64.ofInt i).toInt = i := Int64.toInt_ofInt_of_le (by omega) (by omega)
    rw [Option.some_inj, ← Int64.toInt_inj, hword, eq_comm]
  · next h =>
    have hlow := w.le_toInt
    have hhigh := w.toInt_lt
    refine ⟨nofun, fun heq => absurd ?_ h⟩
    omega

/-- An integer in the range of words has one. -/
theorem exists_word {i : Int} (hlow : -2 ^ 63 ≤ i) (hhigh : i < 2 ^ 63) :
    ∃ w, word? i = some w ∧ w.toInt = i :=
  ⟨Int64.ofInt i, word?_eq_some_iff.mpr (Int64.toInt_ofInt_of_le hlow hhigh),
    Int64.toInt_ofInt_of_le hlow hhigh⟩

/-- **The days that remain, in words**: only the seconds stop at the ends of the range. -/
def daysInWords? (notAfter now : Int64) : Option Int64 := do
  let seconds := secondsRemaining notAfter now
  let started ← if seconds ≤ 0 then some 0 else do
    let more ← word? (secondsPerDay - 1)
    word? ((clamp (seconds.toInt + more.toInt)).toInt.tdiv secondsPerDay)
  word? (started.toInt - 1)

/-- **The last second of a day, in words**: only the seconds stop at the ends of the range. -/
def cutoffInWords? (days now : Int64) : Option Int64 := do
  let started ← word? (days.toInt + 1)
  some (clamp (now.toInt + (clamp (started.toInt * secondsPerDay)).toInt))

/-- **In words there are as many days**, and no step on the way to them leaves the range.

**Proof sketch.** If nothing remains both sides are `-1`. Otherwise the sum of the remaining seconds
and a day less one second is positive also where it is cut off at the end of the range, so that its
quotient by a day is in the range and positive (`exists_word`), and one less than that is in the
range too. -/
theorem exists_daysInWords (notAfter now : Int64) :
    ∃ days, daysInWords? notAfter now = some days ∧ days.toInt = daysRemaining notAfter now := by
  obtain ⟨hlow, hhigh⟩ := daysRemaining_bounds notAfter now
  have hsign : secondsRemaining notAfter now ≤ 0 ↔ (secondsRemaining notAfter now).toInt ≤ 0 :=
    Int64.le_iff_toInt_le
  unfold daysInWords? daysRemaining
  by_cases hspent : (secondsRemaining notAfter now).toInt ≤ 0
  · refine ⟨-1, ?_, ?_⟩
    · simp only [if_pos (hsign.mpr hspent)]
      rfl
    · simp only [if_pos hspent]
      rfl
  · -- A sum of positive seconds is positive wherever it stops, and so are its days.
    have hmore : word? (secondsPerDay - 1) = some 86399 := word?_eq_some_iff.mpr rfl
    have hsum := toInt_clamp ((secondsRemaining notAfter now).toInt + (86399 : Int64).toInt)
    have hupTo := toInt_bounds
      (clamp ((secondsRemaining notAfter now).toInt + (86399 : Int64).toInt))
    rw [show (86399 : Int64).toInt = 86399 from rfl] at hsum hupTo
    obtain ⟨started, hstarted, hdays⟩ := exists_word
      (i := (clamp ((secondsRemaining notAfter now).toInt + 86399)).toInt / 86400)
      (by omega) (by omega)
    obtain ⟨days, hword, hvalue⟩ := exists_word (i := started.toInt - 1) (by omega) (by omega)
    have hquotient : (clamp ((secondsRemaining notAfter now).toInt + 86399)).toInt.tdiv 86400 =
        (clamp ((secondsRemaining notAfter now).toInt + 86399)).toInt / 86400 :=
      Int.tdiv_eq_ediv_of_nonneg (by omega)
    refine ⟨days, ?_, ?_⟩
    · simp only [if_neg (mt hsign.mp hspent), hmore, Option.bind_eq_bind, Option.bind_some]
      rw [show (86399 : Int64).toInt = 86399 from rfl, secondsPerDay, hquotient, hstarted,
        Option.bind_some, hword]
    · simp only [if_neg hspent, hvalue, hdays]
      rfl

/-- **In words the last second of a day is the same**, and no step on the way to it leaves the
range. -/
theorem cutoffInWords?_eq {days : Int64} (hlow : -1 ≤ days.toInt)
    (hhigh : days.toInt ≤ 106751991167299) (now : Int64) :
    cutoffInWords? days now = some (dayEnd days.toInt now) := by
  obtain ⟨started, hstarted, hvalue⟩ := exists_word (i := days.toInt + 1) (by omega) (by omega)
  unfold cutoffInWords? dayEnd
  rw [hstarted, ← hvalue]
  rfl

/-! ## Days, exactly -/

/-- **The days that remain**, as days that were started. -/
theorem daysRemaining_eq_ceil (notAfter now : Int64) : daysRemaining notAfter now =
    min (max 0 ⌈((notAfter.toInt - now.toInt : ℤ) : ℚ) / 86400⌉) 106751991167300 - 1 := by
  have hceil := Rat.ceil_intCast_div_natCast (notAfter.toInt - now.toInt) 86400
  push_cast at hceil
  push_cast
  have hdays := daysRemaining_eq notAfter now
  rw [hceil]
  omega

/-- A later moment leaves no more days. -/
theorem daysRemaining_anti {a b : Int64} (h : a ≤ b) (notAfter : Int64) :
    daysRemaining notAfter b ≤ daysRemaining notAfter a := by
  have hab := Int64.le_iff_toInt_le.mp h
  have ha := daysRemaining_eq notAfter a
  have hb := daysRemaining_eq notAfter b
  omega

/-- **How far ahead an expiry is in its own day**: as far as there are whole days in the range. -/
theorem le_dayEnd_iff_reach {notAfter now : Int64} :
    notAfter ≤ dayEnd (daysRemaining notAfter now) now ↔ notAfter.toInt - now.toInt ≤ reach := by
  refine ⟨fun h => ?_, le_dayEnd⟩
  have hle := Int64.le_iff_toInt_le.mp h
  have hdays := daysRemaining_eq notAfter now
  rw [toInt_dayEnd] at hle
  unfold reach
  omega

/-- **The arithmetic of days is exact** up to a ceiling. The days that remain are the started ones
less one, no more than the range of times has; they are a double without a loss; a later expiry
leaves no fewer of them, and a later moment no more. In words no step leaves the range, neither on
the way to the days nor on the way to the cutoff of a band, and a band reaches as far as the
certificate that opens it if and only if this is within the whole days of the range.

**Proof sketch.** Each part is a lemma: the ceiling (`daysRemaining_eq_ceil`), the bounds
(`daysRemaining_bounds`), the double, since the bounds are below its precision
(`Shortest.isValue_ofInt`), the monotonicity, and the words (`exists_daysInWords`). The cutoff of a
band is computed from the days of the certificate that opens it (`exists_opened`,
`cutoffInWords?_eq`), and `le_dayEnd_iff_reach` says how far it reaches. -/
theorem daysRemaining_exact (notAfter now : Int64) :
    daysRemaining notAfter now =
        min (max 0 ⌈((notAfter.toInt - now.toInt : ℤ) : ℚ) / 86400⌉) 106751991167300 - 1 ∧
      (-1 ≤ daysRemaining notAfter now ∧ daysRemaining notAfter now ≤ 106751991167299) ∧
      Shortest.IsValue (Float.ofInt (daysRemaining notAfter now)) (daysRemaining notAfter now) ∧
      (∀ later, notAfter ≤ later → daysRemaining notAfter now ≤ daysRemaining later now) ∧
      (∀ later, now ≤ later → daysRemaining notAfter later ≤ daysRemaining notAfter now) ∧
      ∃ days, daysInWords? notAfter now = some days ∧ days.toInt = daysRemaining notAfter now ∧
        ∀ certificates, ∀ band ∈ bands now certificates, ∀ c,
          band.certificates.head? = some c → c.notAfter = notAfter →
            cutoffInWords? days now = some band.cutoff ∧
              (notAfter ≤ band.cutoff ↔ notAfter.toInt - now.toInt ≤ 9223372036854720000) := by
  obtain ⟨hlow, hhigh⟩ := daysRemaining_bounds notAfter now
  obtain ⟨days, hword, hdays⟩ := exists_daysInWords notAfter now
  refine ⟨daysRemaining_eq_ceil notAfter now, ⟨hlow, hhigh⟩, Shortest.isValue_ofInt (by omega),
    fun later h => daysRemaining_mono h now, fun later h => daysRemaining_anti h notAfter,
    days, hword, hdays, fun certificates band hband c hhead hc => ?_⟩
  obtain ⟨first, more, rfl, -, -⟩ := exists_opened hband
  obtain rfl : first = c := Option.some_inj.mp hhead
  subst hc
  have hcutoff := cutoffInWords?_eq (hdays ▸ hlow) (hdays ▸ hhigh) now
  rw [hdays] at hcutoff
  exact ⟨hcutoff, le_dayEnd_iff_reach⟩

/-- A certificate that expires in the last second of the range, seen from the start of the count:
its band ends in front of it. -/
theorem daysRemaining_exact_last :
    let c : Certificate := ⟨"last", Int64.maxValue, []⟩
    ∃ band ∈ bands 0 [c], band.certificates.head? = some c ∧
      cutoffInWords? 106751991167299 0 = some band.cutoff ∧ ¬ c.notAfter ≤ band.cutoff := by
  intro c
  obtain ⟨-, -, -, -, -, days, hword, -, hband⟩ := daysRemaining_exact Int64.maxValue 0
  have hdays : daysInWords? Int64.maxValue 0 = some 106751991167299 := by decide
  obtain rfl := Option.some_inj.mp (hdays.symm.trans hword)
  have hmem : { Band.opened 0 c with certificates := [c] } ∈ bands 0 [c] := by
    rw [bands]
    exact List.mem_cons_self
  obtain ⟨hcutoff, hreach⟩ := hband [c] _ hmem c rfl rfl
  exact ⟨_, hmem, rfl, hcutoff, fun hle => absurd (hreach.mp hle) (by decide)⟩

end Expiry

end CertDashboard
