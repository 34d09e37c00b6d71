import CertDashboard.Expiry.Band
import CertDashboard.Proofs.Expiry.Days
import Mathlib.Data.List.TakeWhile

set_option autoImplicit false
set_option relaxedAutoImplicit false

/-!
# Bands are days

A band takes in whatever follows the certificate that opened it and is not past its cutoff. Behind
the cutoff is the end of a day, and so in an inventory that is in the order of expiry a band holds
the certificates of one day, all of them.

## Main definitions

* `CertDashboard.Expiry.join` — one certificate more.
* `CertDashboard.Expiry.IsCut` — certificates in any order, cut into bands.
* `CertDashboard.Expiry.IsByDay` — certificates in bands of one day each.

## Main results

* `CertDashboard.Expiry.bands_eq_foldl` — the bands, as what one certificate after another leads to.
* `CertDashboard.Expiry.isCut_bands` — the bands of any certificates are such a cut.
* `CertDashboard.Expiry.bands_byDay` — the bands of certificates in the order of expiry are days,
  and so are those within a horizon.
-/

namespace CertDashboard

namespace Expiry

/-- **Certificates cut into bands**, in any order. -/
structure IsCut (certificates : List Certificate) (bands : List Band) : Prop where
  /-- The bands hold the certificates, in order. -/
  flatMap : bands.flatMap Band.certificates = certificates
  /-- No band is empty. -/
  ne_nil : ∀ band ∈ bands, band.certificates ≠ []
  /-- Each cutoff is later than those before it. -/
  cutoff_lt : bands.Pairwise fun a b => a.cutoff < b.cutoff
  /-- No certificate of a band is past its cutoff. -/
  le_cutoff : ∀ band ∈ bands, ∀ c ∈ band.certificates, c.notAfter ≤ band.cutoff

/-- **Certificates in bands of one day each.** -/
structure IsByDay (now : Int64) (certificates : List Certificate) (bands : List Band) : Prop
    extends IsCut certificates bands where
  /-- All certificates of a band are past the cutoffs before it. -/
  past : bands.Pairwise fun a b => ∀ c ∈ b.certificates, a.cutoff < c.notAfter
  /-- Certificates share a band if and only if they have as many days left. -/
  day : ∀ (i j : Nat) (a b : Band), bands[i]? = some a → bands[j]? = some b →
    ∀ c ∈ a.certificates, ∀ d ∈ b.certificates,
      (i = j ↔ daysRemaining c.notAfter now = daysRemaining d.notAfter now)
  /-- Header, color and cutoff of a band are those of its day. -/
  header : ∀ band ∈ bands, ∀ c ∈ band.certificates,
    band.label = Expiry.label (daysRemaining c.notAfter now) ∧
      band.color = Rgb.gradient (Float.ofInt (daysRemaining c.notAfter now)) ∧
        band.cutoff.toInt =
          min 0x7fffffffffffffff (now.toInt + (daysRemaining c.notAfter now + 1) * 86400)

/-! ## One certificate after another -/

/-- **One certificate more**: it joins the last band if it is not past the cutoff of that, and opens
the next band otherwise. -/
def join (now : Int64) (bands : List Band) (c : Certificate) : List Band :=
  match bands.getLast? with
  | some band =>
    if c.notAfter ≤ band.cutoff then
      bands.dropLast ++ [{ band with certificates := band.certificates ++ [c] }]
    else bands ++ [{ Band.opened now c with certificates := [c] }]
  | none => [{ Band.opened now c with certificates := [c] }]

/-- Certificates joined to bands of which the last one is given.

**Proof sketch.** Induction on the certificates, for every band that is the last one. A certificate
that is not past its cutoff is joined to it, and the rest goes on with the larger band. The first
one past the cutoff opens a band of its own, which is where `bands` begins anew. -/
theorem foldl_join_concat (now : Int64) (certificates : List Certificate) (before : List Band)
    (band : Band) : certificates.foldl (join now) (before ++ [band]) =
      before ++ { band with certificates := band.certificates ++
        certificates.takeWhile fun d => decide (d.notAfter ≤ band.cutoff) } ::
          bands now (certificates.dropWhile fun d => decide (d.notAfter ≤ band.cutoff)) := by
  induction certificates generalizing before band with
  | nil => simp
  | cons c rest ih =>
    rw [List.foldl_cons]
    by_cases hle : c.notAfter ≤ band.cutoff
    · have hjoin : join now (before ++ [band]) c =
          before ++ [{ band with certificates := band.certificates ++ [c] }] := by
        simp [join, hle]
      rw [hjoin, ih]
      simp [hle]
    · have hjoin : join now (before ++ [band]) c =
          (before ++ [band]) ++ [{ Band.opened now c with certificates := [c] }] := by
        simp [join, hle]
      rw [hjoin, ih]
      simp [hle, bands]

/-- **The bands are what joining one certificate after another leads to.** -/
theorem bands_eq_foldl (now : Int64) (certificates : List Certificate) :
    bands now certificates = certificates.foldl (join now) [] := by
  cases certificates with
  | nil => rw [bands_nil, List.foldl_nil]
  | cons c rest =>
    have hfirst : join now [] c = [] ++ [{ Band.opened now c with certificates := [c] }] := rfl
    rw [List.foldl_cons, hfirst, foldl_join_concat, bands]
    rfl

section Bands

variable {now : Int64} {certificates : List Certificate}

/-! ## Any order -/

/-- **A band is opened by its first certificate**, and the others are not past its cutoff. -/
theorem exists_opened {band : Band} (h : band ∈ bands now certificates) :
    ∃ c more, band = { Band.opened now c with certificates := c :: more } ∧
      (c :: more).Sublist certificates ∧ ∀ d ∈ more, d.notAfter ≤ (Band.opened now c).cutoff := by
  fun_induction bands now certificates with
  | case1 => exact absurd h (by simp)
  | case2 c rest opened ih =>
    rcases List.mem_cons.mp h with rfl | h
    · refine ⟨c, _, rfl, (List.takeWhile_sublist _).cons_cons c, fun d hd => ?_⟩
      have hle := List.mem_takeWhile_imp hd
      exact of_decide_eq_true hle
    · obtain ⟨e, more, heq, hsub, hle⟩ := ih h
      exact ⟨e, more, heq, (hsub.trans (List.dropWhile_sublist _)).cons c, hle⟩

/-- The certificates of a band are among those that were cut. -/
theorem mem_of_mem_band {band : Band} (h : band ∈ bands now certificates) {c : Certificate}
    (hc : c ∈ band.certificates) : c ∈ certificates := by
  obtain ⟨e, more, rfl, hsub, -⟩ := exists_opened h
  exact hsub.subset hc

/-- Within reach, no certificate of a band is past its cutoff. -/
theorem le_cutoff (hreach : ∀ c ∈ certificates, c.notAfter.toInt - now.toInt ≤ reach)
    {band : Band} (h : band ∈ bands now certificates) {c : Certificate}
    (hc : c ∈ band.certificates) : c.notAfter ≤ band.cutoff := by
  obtain ⟨e, more, rfl, hsub, hle⟩ := exists_opened h
  rcases List.mem_cons.mp hc with rfl | hc
  · exact le_dayEnd (hreach c (hsub.subset List.mem_cons_self))
  · exact hle c hc

/-- What a cutoff leaves over starts past it. -/
theorem cutoff_lt_of_dropWhile {cutoff : Int64} {rest : List Certificate} {c : Certificate}
    (h : (certificates.dropWhile fun d => decide (d.notAfter ≤ cutoff)) = c :: rest) :
    cutoff < c.notAfter := by
  have hhead := List.head?_dropWhile_not (fun d : Certificate => decide (d.notAfter ≤ cutoff))
    certificates
  rw [h] at hhead
  exact Int64.not_le.mp (of_decide_eq_false hhead)

/-- **Each cutoff is later than those before it**: the certificate that opens a band is past the
cutoff before, and within reach not past its own.

**Proof sketch.** By the recursion of `bands`. The certificate that opens the next band is past this
cutoff (`cutoff_lt_of_dropWhile`) and not past the cutoff of its own band (`le_dayEnd`, the only use
of the reach); the cutoffs behind that one are later still by induction. -/
theorem pairwise_cutoff (hreach : ∀ c ∈ certificates, c.notAfter.toInt - now.toInt ≤ reach) :
    (bands now certificates).Pairwise fun a b => a.cutoff < b.cutoff := by
  fun_induction bands now certificates with
  | case1 => exact .nil
  | case2 c rest opened ih =>
    have hsub : (rest.dropWhile fun d => decide (d.notAfter ≤ opened.cutoff)).Sublist (c :: rest) :=
      (List.dropWhile_sublist _).cons c
    have hpair := ih fun d hd => hreach d (hsub.subset hd)
    refine List.pairwise_cons.mpr ⟨fun band hband => ?_, hpair⟩
    -- The next band is opened past this cutoff, and the cutoffs behind it are later than its own.
    rcases hdrop : rest.dropWhile (fun d => decide (d.notAfter ≤ opened.cutoff)) with _ | ⟨e, more⟩
    · simp [hdrop] at hband
    · have hpast := cutoff_lt_of_dropWhile hdrop
      have hday : e.notAfter ≤ (Band.opened now e).cutoff :=
        le_dayEnd (hreach e (hsub.subset (hdrop ▸ List.mem_cons_self)))
      have hopened := Int64.lt_of_lt_of_le hpast hday
      rw [hdrop, bands] at hpair hband
      rcases List.mem_cons.mp hband with rfl | hband
      · exact hopened
      · exact Int64.lt_trans hopened ((List.pairwise_cons.mp hpair).1 band hband)

/-- **The bands of certificates in any order.** -/
theorem isCut_bands (hreach : ∀ c ∈ certificates, c.notAfter.toInt - now.toInt ≤ reach) :
    IsCut certificates (bands now certificates) where
  flatMap := flatMap_bands now certificates
  ne_nil := by
    intro band hband
    obtain ⟨c, more, rfl, -, -⟩ := exists_opened hband
    simp
  cutoff_lt := pairwise_cutoff hreach
  le_cutoff := fun _ hband _ hc => le_cutoff hreach hband hc

/-! ## The order of expiry -/

/-- In the order of expiry, all that a cutoff leaves over is past it. -/
theorem cutoff_lt_of_mem_dropWhile {cutoff : Int64} (h : Ascending certificates)
    {d : Certificate} (hd : d ∈ certificates.dropWhile fun d => decide (d.notAfter ≤ cutoff)) :
    cutoff < d.notAfter := by
  rcases hdrop : certificates.dropWhile (fun d => decide (d.notAfter ≤ cutoff)) with _ | ⟨e, more⟩
  · simp [hdrop] at hd
  · have hpast := cutoff_lt_of_dropWhile hdrop
    have hsorted : Ascending (e :: more) := hdrop ▸ h.sublist (List.dropWhile_sublist _)
    rw [hdrop] at hd
    rcases List.mem_cons.mp hd with rfl | hd
    · exact hpast
    · exact Int64.lt_of_lt_of_le hpast ((List.pairwise_cons.mp hsorted).1 d hd)

/-- In the order of expiry, the certificates of a band are past the cutoffs before it. -/
theorem pairwise_past (h : Ascending certificates) :
    (bands now certificates).Pairwise fun a b => ∀ c ∈ b.certificates, a.cutoff < c.notAfter := by
  fun_induction bands now certificates with
  | case1 => exact .nil
  | case2 c rest opened ih =>
    have hrest : Ascending rest := (List.pairwise_cons.mp h).2
    refine List.pairwise_cons.mpr ⟨fun band hband d hd => ?_,
      ih (hrest.sublist (List.dropWhile_sublist _))⟩
    obtain ⟨e, more, rfl, hsub, -⟩ := exists_opened hband
    exact cutoff_lt_of_mem_dropWhile hrest (hsub.subset hd)

/-- **In the order of expiry, a band is a day**: each of its certificates has as many days left as
the one that opened it. -/
theorem exists_day (h : Ascending certificates)
    (hreach : ∀ c ∈ certificates, c.notAfter.toInt - now.toInt ≤ reach) {band : Band}
    (hband : band ∈ bands now certificates) :
    ∃ e, band = { Band.opened now e with certificates := band.certificates } ∧
      ∀ c ∈ band.certificates, daysRemaining c.notAfter now = daysRemaining e.notAfter now := by
  obtain ⟨e, more, rfl, hsub, hle⟩ := exists_opened hband
  refine ⟨e, rfl, fun c hc => ?_⟩
  rcases List.mem_cons.mp hc with rfl | hc
  · rfl
  · have hsorted : Ascending (e :: more) := h.sublist hsub
    have hlater := daysRemaining_mono ((List.pairwise_cons.mp hsorted).1 c hc) now
    have hearlier : daysRemaining c.notAfter now ≤ daysRemaining e.notAfter now :=
      (le_dayEnd_iff (hreach c (hsub.subset (List.mem_cons_of_mem e hc)))).mp (hle c hc)
    omega

/-- In the order of expiry, the certificates of a later band have more days left.

**Proof sketch.** Since the order is kept, the certificate of the later band is past the cutoff of
the earlier one (`pairwise_past`). That cutoff is the end of the day of the certificate that opened
the band (`exists_day`), and past the end of a day means more days (`le_dayEnd_iff`). -/
theorem days_lt (h : Ascending certificates)
    (hreach : ∀ c ∈ certificates, c.notAfter.toInt - now.toInt ≤ reach) {i j : Nat} {a b : Band}
    (hij : i < j) (ha : (bands now certificates)[i]? = some a)
    (hb : (bands now certificates)[j]? = some b) {c d : Certificate} (hc : c ∈ a.certificates)
    (hd : d ∈ b.certificates) :
    daysRemaining c.notAfter now < daysRemaining d.notAfter now := by
  obtain ⟨hi, ha⟩ := List.getElem?_eq_some_iff.mp ha
  obtain ⟨hj, hb⟩ := List.getElem?_eq_some_iff.mp hb
  have hamem : a ∈ bands now certificates := ha ▸ List.getElem_mem hi
  have hbmem : b ∈ bands now certificates := hb ▸ List.getElem_mem hj
  have hpast : a.cutoff < d.notAfter := by
    have hpair : ∀ c ∈ ((bands now certificates)[j]).certificates,
        ((bands now certificates)[i]).cutoff < c.notAfter :=
      List.pairwise_iff_getElem.mp (pairwise_past h) i j hi hj hij
    rw [ha, hb] at hpair
    exact hpair d hd
  obtain ⟨e, heq, hdays⟩ := exists_day h hreach hamem
  have hcutoff : a.cutoff = dayEnd (daysRemaining e.notAfter now) now := congrArg Band.cutoff heq
  have hmore : ¬ daysRemaining d.notAfter now ≤ daysRemaining e.notAfter now := by
    rw [← le_dayEnd_iff (hreach d (mem_of_mem_band hbmem hd)), ← hcutoff]
    exact Int64.not_le.mpr hpast
  rw [hdays c hc]
  omega

/-- **The bands of certificates in the order of expiry.**

**Proof sketch.** That it is a cut holds in any order (`isCut_bands`). Within a band all
certificates have the days of the one that opened it (`exists_day`), which also gives the header and
the cutoff; of two bands the later one has more days (`days_lt`), so equal days are of one band. -/
theorem isByDay_bands (h : Ascending certificates)
    (hreach : ∀ c ∈ certificates, c.notAfter.toInt - now.toInt ≤ reach) :
    IsByDay now certificates (bands now certificates) where
  toIsCut := isCut_bands hreach
  past := pairwise_past h
  day := by
    intro i j a b ha hb c hc d hd
    constructor
    · rintro rfl
      obtain rfl : a = b := Option.some_inj.mp (ha.symm.trans hb)
      obtain ⟨e, -, hdays⟩ := exists_day h hreach (List.mem_of_getElem? ha)
      rw [hdays c hc, hdays d hd]
    · intro heq
      rcases Nat.lt_trichotomy i j with hij | hij | hij
      · have hlt := days_lt h hreach hij ha hb hc hd
        omega
      · exact hij
      · have hlt := days_lt h hreach hij hb ha hd hc
        omega
  header := by
    intro band hband c hc
    obtain ⟨e, heq, hdays⟩ := exists_day h hreach hband
    rw [heq, hdays c hc]
    exact ⟨rfl, rfl, toInt_dayEnd e.notAfter now⟩

end Bands

/-! ## Within a horizon -/

/-- In the order of expiry, a cursor finds all certificates within its horizon.

**Proof sketch.** The cursor takes certificates as long as the horizon covers them. Induction on
these: in the order of expiry all behind the first one that is not covered are not covered either
(`Horizon.covers_of_le`), so taking a prefix and filtering are the same. -/
theorem drain_start {certificates : List Certificate} (h : Ascending certificates) (now : Int64)
    (horizon : Horizon) : (Cursor.start certificates now horizon).drain =
      certificates.filter (horizon.covers now) := by
  have htake : (Cursor.start certificates now horizon).drain =
      certificates.takeWhile (horizon.covers now) := rfl
  rw [htake]
  induction certificates with
  | nil => rfl
  | cons c rest ih =>
    obtain ⟨hfirst, hrest⟩ := List.pairwise_cons.mp h
    rcases hcovers : horizon.covers now c with _ | _
    · have hnone : rest.filter (horizon.covers now) = [] := by
        refine List.filter_eq_nil_iff.mpr fun d hd hcovered => ?_
        rw [Horizon.covers_of_le (hfirst d hd) hcovered] at hcovers
        exact absurd hcovers (by simp)
      simp [hcovers, hnone]
    · simp [hcovers, ih hrest rfl]

/-- **Bands are days.** The bands of certificates within reach hold these in order, none of them is
empty, cutoffs increase and no certificate is past that of its band. In the order of expiry each
band is one day, with its header, color and cutoff; the bands within a horizon are the days of those
certificates that the horizon shows. -/
theorem bands_byDay (now : Int64) (certificates : List Certificate)
    (hreach : ∀ c ∈ certificates, c.notAfter.toInt - now.toInt ≤ 9223372036854720000) :
    IsCut certificates (bands now certificates) ∧
      (Ascending certificates →
        IsByDay now certificates (bands now certificates) ∧
          ∀ horizon : Horizon, IsByDay now (certificates.filter (horizon.covers now))
            (bandsWithin now horizon certificates)) := by
  refine ⟨isCut_bands hreach, fun h => ⟨isByDay_bands h hreach, fun horizon => ?_⟩⟩
  unfold bandsWithin
  rw [drain_start h]
  exact isByDay_bands (h.sublist List.filter_sublist) fun c hc =>
    hreach c (List.mem_filter.mp hc).1

/-- Four certificates: one that expired, two of one day, and one of the next day, which a horizon of
a day leaves out. -/
theorem bands_byDay_four :
    let certificates : List Certificate := [⟨"expired", -5, []⟩, ⟨"today", 1, []⟩,
      ⟨"midnight", 86400, []⟩, ⟨"tomorrow", 86401, []⟩]
    Ascending certificates ∧
      IsByDay 0 (certificates.filter ((Horizon.within 86400).covers 0))
        (bandsWithin 0 (.within 86400) certificates) ∧
      (certificates.filter ((Horizon.within 86400).covers 0)).length = 3 := by
  intro certificates
  have hsorted : Ascending certificates := by
    unfold Ascending
    decide
  have hreach : ∀ c ∈ certificates,
      c.notAfter.toInt - (0 : Int64).toInt ≤ 9223372036854720000 := by decide
  exact ⟨hsorted, (bands_byDay 0 certificates hreach).2 hsorted |>.2 (.within 86400), by decide⟩

end Expiry

end CertDashboard
