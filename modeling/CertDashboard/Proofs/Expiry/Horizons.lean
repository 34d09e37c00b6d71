import CertDashboard.Proofs.Expiry.Bands

set_option autoImplicit false
set_option relaxedAutoImplicit false

/-!
# A further horizon only shows more

A horizon cuts an inventory at the first certificate that it does not admit, wherever that stands:
in front of a band, or in the middle of one. What is in front of the cut does not depend on it, and
so the bands within a further horizon are those that were there, with more certificates at the end
of the last one and more bands behind it.

## Main definitions

* `CertDashboard.Horizon.NoFurther` — one horizon is no further than another.
* `CertDashboard.Expiry.Extends` — bands with more at their end.

## Main results

* `CertDashboard.Expiry.extends_append` — more certificates at the end of an inventory only add to
  its bands.
* `CertDashboard.Expiry.bandsWithin_extends` — so does a further horizon.
-/

namespace CertDashboard

namespace Horizon

/-- **One horizon is no further than another**: the other one is unbounded, or both are bounded, and
the limit of the other one is no smaller. -/
def NoFurther (near far : Horizon) : Prop :=
  far = .unbounded ∨ ∃ a b : Int64, near = .within a ∧ far = .within b ∧ a ≤ b

/-- What a horizon shows, a further one shows. -/
theorem NoFurther.covers {near far : Horizon} (h : near.NoFurther far) {now : Int64}
    {c : Certificate} (hc : near.covers now c = true) : far.covers now c = true := by
  rcases h with rfl | ⟨a, b, rfl, rfl, hab⟩
  · rfl
  · exact decide_eq_true (Int64.le_trans (of_decide_eq_true hc) hab)

end Horizon

namespace Expiry

/-- **Bands with more at their end**: all bands but the last one are the same, the last one may have
more certificates at its end, and more bands may follow. -/
def Extends (less more : List Band) : Prop :=
  less = [] ∨ ∃ before last added behind, less = before ++ [last] ∧
    more = before ++ { last with certificates := last.certificates ++ added } :: behind

namespace Extends

variable {less more : List Band}

/-- There are no fewer bands. -/
theorem length_le (h : Extends less more) : less.length ≤ more.length := by
  rcases h with rfl | ⟨before, last, added, behind, rfl, rfl⟩
  · exact Nat.zero_le _
  · simp

/-- All bands but the last one are the same. -/
theorem getElem?_eq (h : Extends less more) {i : Nat} (hi : i + 1 < less.length) :
    more[i]? = less[i]? := by
  rcases h with rfl | ⟨before, last, added, behind, rfl, rfl⟩
  · exact absurd hi (by simp)
  · have hlt : i < before.length := by simpa using hi
    rw [List.getElem?_append_left hlt, List.getElem?_append_left hlt]

/-- **Every band stays** in its place, with its header, its cutoff and its color; its certificates
are the first ones that it then has. -/
theorem exists_getElem? (h : Extends less more) {i : Nat} {band : Band}
    (hband : less[i]? = some band) : ∃ added,
      more[i]? = some { band with certificates := band.certificates ++ added } := by
  rcases h with rfl | ⟨before, last, added, behind, rfl, rfl⟩
  · exact absurd hband (by simp)
  · rcases Nat.lt_or_ge i before.length with hlt | hge
    · rw [List.getElem?_append_left hlt] at hband ⊢
      exact ⟨[], by simpa using hband⟩
    · rw [List.getElem?_append_right hge, List.getElem?_singleton] at hband
      split at hband
      · next hzero =>
        obtain rfl := Option.some_inj.mp hband
        exact ⟨added, by rw [List.getElem?_append_right hge, hzero, List.getElem?_cons_zero]⟩
      · exact absurd hband (by simp)

end Extends

/-- **More certificates at the end of an inventory only add to its bands**: they join the last one
or open further ones. -/
theorem extends_append (now : Int64) (certificates added : List Certificate) :
    Extends (bands now certificates) (bands now (certificates ++ added)) := by
  rcases List.eq_nil_or_concat (bands now certificates) with hnil | ⟨before, last, hlast⟩
  · exact .inl hnil
  · rw [List.concat_eq_append] at hlast
    have hmore : bands now (certificates ++ added) = added.foldl (join now) (before ++ [last]) := by
      rw [bands_eq_foldl, List.foldl_append, ← bands_eq_foldl, hlast]
    rw [foldl_join_concat] at hmore
    exact .inr ⟨before, last, _, _, hlast, hmore⟩

/-- A horizon shows the certificates in front of the first one that it does not admit, and a further
one shows at least these. -/
theorem drain_start_prefix {near far : Horizon} (h : near.NoFurther far) (now : Int64)
    (certificates : List Certificate) :
    (Cursor.start certificates now near).drain <+: (Cursor.start certificates now far).drain := by
  show certificates.takeWhile (near.covers now) <+: certificates.takeWhile (far.covers now)
  induction certificates with
  | nil => exact List.prefix_rfl
  | cons c rest ih =>
    rcases hcovers : near.covers now c with _ | _
    · rw [List.takeWhile_cons_of_neg (by simp [hcovers])]
      exact List.nil_prefix
    · rw [List.takeWhile_cons_of_pos hcovers, List.takeWhile_cons_of_pos (h.covers hcovers)]
      exact (List.prefix_cons_inj c).mpr ih

/-- **A further horizon only shows more**, in an inventory in any order and at any moment. There are
bands within it if there were any, all but the last one of these are the same, and that one is
followed by more, if by anything: it keeps its header, its cutoff, its color and its certificates,
to which others may be added at its end. So no certificate that was shown is moved, and none is
shown under another header.

**Proof sketch.** The further horizon lets a cursor find what the nearer one does and then some more
(`drain_start_prefix`), and bands of a longer list extend those of its beginning (`extends_append`).
What this says of single bands and certificates is `Extends.exists_getElem?` and
`Extends.getElem?_eq`. -/
theorem bandsWithin_extends {near far : Horizon} (h : near.NoFurther far) (now : Int64)
    (certificates : List Certificate) :
    let less := bandsWithin now near certificates
    let more := bandsWithin now far certificates
    less.length ≤ more.length ∧
      (∀ i : Nat, i + 1 < less.length → more[i]? = less[i]?) ∧
      (∀ (i : Nat) (band : Band), less[i]? = some band → ∃ band' : Band, more[i]? = some band' ∧
        band'.label = band.label ∧ band'.cutoff = band.cutoff ∧ band'.color = band.color ∧
        band.certificates <+: band'.certificates) ∧
      ∀ (i j : Nat) (band : Band) (c : Certificate), less[i]? = some band →
        band.certificates[j]? = some c → ∃ band' : Band, more[i]? = some band' ∧
          band'.label = band.label ∧ band'.certificates[j]? = some c := by
  intro less more
  obtain ⟨added, hadded⟩ := drain_start_prefix h now certificates
  have hextends : Extends less more := by
    have hmore : more = bands now ((Cursor.start certificates now near).drain ++ added) := by
      rw [hadded]
      rfl
    rw [hmore]
    exact extends_append now _ added
  refine ⟨hextends.length_le, fun i hi => hextends.getElem?_eq hi, fun i band hband => ?_,
    fun i j band c hband hc => ?_⟩
  · obtain ⟨added, hsame⟩ := hextends.exists_getElem? hband
    exact ⟨_, hsame, rfl, rfl, rfl, List.prefix_append _ added⟩
  · obtain ⟨added, hsame⟩ := hextends.exists_getElem? hband
    have hlt := (List.getElem?_eq_some_iff.mp hc).1
    exact ⟨_, hsame, rfl, (List.getElem?_append_left hlt).trans hc⟩

/-- A horizon of a hundred seconds cuts a day in two. Without it the day is complete, and a band
follows for the next day, which has an earlier certificate out of order.

**Proof sketch.** The horizon is no further by its definition, so `bandsWithin_extends` applies.
Both cuts are computed from what a cursor finds and from where the certificates pass the cutoffs. -/
theorem bandsWithin_extends_day :
    let morning : Certificate := ⟨"morning", 50, []⟩
    let evening : Certificate := ⟨"evening", 200, []⟩
    let tomorrow : Certificate := ⟨"tomorrow", 90000, []⟩
    let early : Certificate := ⟨"early", 60, []⟩
    let near := bandsWithin 0 (.within 100) [morning, evening, tomorrow, early]
    let far := bandsWithin 0 .unbounded [morning, evening, tomorrow, early]
    (Horizon.within 100).NoFurther .unbounded ∧
      near.map Band.certificates = [[morning]] ∧
      far.map Band.certificates = [[morning, evening], [tomorrow, early]] ∧
      ∀ (i : Nat) (band : Band), near[i]? = some band → ∃ band' : Band, far[i]? = some band' ∧
        band'.label = band.label ∧ band'.cutoff = band.cutoff ∧ band'.color = band.color ∧
        band.certificates <+: band'.certificates := by
  intro morning evening tomorrow early near far
  have h : (Horizon.within 100).NoFurther .unbounded := .inl rfl
  refine ⟨h, ?_, ?_, (bandsWithin_extends h 0 [morning, evening, tomorrow, early]).2.2.1⟩
  · have hdrain : (Cursor.start [morning, evening, tomorrow, early] 0 (.within 100)).drain =
        [morning] := by decide
    show (bands 0 _).map _ = _
    rw [hdrain, bands]
    simp
  · have hdrain : (Cursor.start [morning, evening, tomorrow, early] 0 .unbounded).drain =
        [morning, evening, tomorrow, early] := by decide
    have htoday : ([evening, tomorrow, early].takeWhile fun d =>
        decide (d.notAfter ≤ (Band.opened 0 morning).cutoff)) = [evening] := by decide
    have hlater : ([evening, tomorrow, early].dropWhile fun d =>
        decide (d.notAfter ≤ (Band.opened 0 morning).cutoff)) = [tomorrow, early] := by decide
    have htomorrow : early.notAfter ≤ (Band.opened 0 tomorrow).cutoff := by decide
    show (bands 0 _).map _ = _
    rw [hdrain, bands, htoday, hlater, bands]
    simp [htomorrow]

end Expiry

end CertDashboard
