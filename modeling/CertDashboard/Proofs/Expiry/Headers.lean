import CertDashboard.Proofs.Expiry.Words
import CertDashboard.Text.Split

set_option autoImplicit false
set_option relaxedAutoImplicit false

/-!
# Headers tell days apart

The header of days to come is one or two numbers with their units, and it reads back: cut into
words, it is numbers, each with the unit behind it, and the days of these add up to those that the
header was written for. So it is written for no other number of days. What has expired is the
exception, as its header does not say for how long.

In the order of expiry a band is a day, and so no header stands above two bands.

## Main definitions

* `CertDashboard.Expiry.words` — a header in words.
* `CertDashboard.Expiry.days?` — the days that a header says.

## Main results

* `CertDashboard.Expiry.days?_label` — a header says the days that it was written for.
* `CertDashboard.Expiry.label_eq_iff` — which numbers of days have one header.
* `CertDashboard.Expiry.IsByDay.nodup_labels` — the headers of bands of one day each are distinct.
* `CertDashboard.Expiry.label_identifies` — both of these, for the bands of an inventory.
* `CertDashboard.Expiry.nodup_labels_pair_iff` — beyond the reach of the last day they are not.

## Design

The reader takes more than what is written, such as `3 DAY`, days in front of weeks, or no words at
all. All that it is there for is that it undoes the writing.
-/

namespace CertDashboard

namespace Expiry

/-! ## Words -/

/-- Whether a character stands between words. -/
def isGap (c : Char) : Bool :=
  c == ' ' || c == ','

/-- **The words of a text**: its pieces between blanks and commas, but for empty ones. -/
def words (text : List Char) : List (List Char) :=
  (Text.split isGap text).filter fun piece => !piece.isEmpty

/-- **The days of a unit**, in the singular or the plural. -/
def unitDays? (unit : List Char) : Option Nat :=
  if unit = "DAY".toList ∨ unit = "DAYS".toList then some 1
  else if unit = "WEEK".toList ∨ unit = "WEEKS".toList then some 7
  else none

/-- **The days of an amount in words**: numbers, each with its unit behind it. -/
def amount? : List (List Char) → Option Nat
  | [] => some 0
  | [_] => none
  | number :: unit :: rest => do
    let n ← Decimal.read? number
    let days ← unitDays? unit
    let more ← amount? rest
    some (n * days + more)

/-- **The days that a header says**: those of an amount, or else one of the two headers without one,
where `-1` stands for all days before now. -/
def days? (header : String) : Option Int :=
  match amount? (words header.toList) with
  | some n => some n
  | none =>
    if header = "NOW" then some 0
    else if header = "THE DAWN OF TIME" then some (-1)
    else none

/-- A gap is no part of a word. -/
theorem words_gap {c : Char} (hc : isGap c = true) (rest : List Char) :
    words (c :: rest) = words rest := by
  simp [words, Text.split, hc]

/-- A word ends where the text does, or where a gap follows. -/
theorem words_append {word rest : List Char} (hne : word ≠ [])
    (hword : ∀ c ∈ word, isGap c = false) (hrest : ∀ c ∈ rest.head?, isGap c = true) :
    words (word ++ rest) = word :: words rest := by
  cases rest with
  | nil => simp [words, Text.split_of_not hword, Text.split, hne]
  | cons c rest =>
    have hc : isGap c = true := hrest c rfl
    rw [words_gap hc]
    simp [words, Text.split_append hword hc, hne]

/-! ## Amounts -/

/-- No digit is a gap. -/
theorem isGap_of_isDigit {c : Char} (h : c.isDigit = true) : isGap c = false := by
  rcases hgap : isGap c with _ | _
  · rfl
  · rcases Bool.or_eq_true_iff.mp hgap with heq | heq
    · rw [eq_of_beq heq] at h
      exact absurd h (by decide)
    · rw [eq_of_beq heq] at h
      exact absurd h (by decide)

/-- A unit is a word. -/
theorem word_of_unitDays? {unit : List Char} {days : Nat} (h : unitDays? unit = some days) :
    unit ≠ [] ∧ ∀ c ∈ unit, isGap c = false := by
  unfold unitDays? at h
  split at h
  · next hday =>
    rcases hday with rfl | rfl
    · simp [isGap]
    · simp [isGap]
  · split at h
    · next hweek =>
      rcases hweek with rfl | rfl
      · simp [isGap]
      · simp [isGap]
    · exact absurd h (by simp)

/-- **A unit of so many days**, in the singular and in the plural. -/
structure IsUnit (unit : String) (days : Nat) : Prop where
  /-- The singular. -/
  singular : unitDays? unit.toList = some days
  /-- The plural. -/
  plural : unitDays? (unit ++ "S").toList = some days

/-- A day. -/
theorem isUnit_day : IsUnit "DAY" 1 where
  singular := by decide
  plural := by decide

/-- A week. -/
theorem isUnit_week : IsUnit "WEEK" 7 where
  singular := by decide
  plural := by decide

/-- Behind the digits of a number and a blank stands its unit, in one of the two. -/
theorem IsUnit.exists_form {unit : String} {days : Nat} (h : IsUnit unit days) (n : Nat) :
    ∃ form : List Char, (counted n unit).toList = Decimal.digits n ++ ' ' :: form ∧
      unitDays? form = some days := by
  by_cases hone : n = 1
  · exact ⟨unit.toList, by simp [counted, hone], h.singular⟩
  · exact ⟨(unit ++ "S").toList, by simp [counted, hone], h.plural⟩

/-- **A number and its unit are two words**, and they say so many times the days of the unit; what
follows them behind a gap is read on its own.

**Proof sketch.** The unit has one form for one and another one for more (`IsUnit.exists_form`), and
the reader knows both. No digit is a gap, so the words are the numeral, the form, and the words of
what follows (`words_append`), and the numeral reads back (`Decimal.read?_digits`). -/
theorem amount?_counted_append {unit : String} {days : Nat} (h : IsUnit unit days) (n : Nat)
    {rest : List Char} (hrest : ∀ c ∈ rest.head?, isGap c = true) :
    amount? (words ((counted n unit).toList ++ rest)) =
      (amount? (words rest)).map (n * days + ·) := by
  obtain ⟨form, hform, hdays⟩ := h.exists_form n
  obtain ⟨hne, hword⟩ := word_of_unitDays? hdays
  have hnumber : ∀ c ∈ Decimal.digits n, isGap c = false :=
    fun c hc => isGap_of_isDigit (Decimal.isDigit_of_mem_digits hc)
  have hwords : words ((counted n unit).toList ++ rest) =
      Decimal.digits n :: form :: words rest := by
    rw [hform, List.append_assoc, List.cons_append,
      words_append (Decimal.digits_ne_nil n) hnumber (by simp [isGap]),
      words_gap (by decide), words_append hne hword hrest]
  rw [hwords, amount?, Decimal.read?_digits, hdays]
  cases amount? (words rest) with
  | none => rfl
  | some more => rfl

/-- A number and its unit say so many times the days of the unit. -/
theorem amount?_counted {unit : String} {days : Nat} (h : IsUnit unit days) (n : Nat) :
    amount? (words (counted n unit).toList) = some (n * days) := by
  have hnil : ∀ c ∈ ([] : List Char).head?, isGap c = true := by simp
  have happend := amount?_counted_append h n hnil
  rw [List.append_nil] at happend
  rw [happend]
  rfl

/-! ## Headers -/

/-- **The header of days to come says how many they are**: the weeks and the days beyond them add up
to them.

**Proof sketch.** By the three forms of a header: days alone, weeks alone, or both with a comma
between them. The first two are one number with its unit (`amount?_counted`), the last one is two of
them (`amount?_counted_append`), and by division with remainder they add up. -/
theorem amount?_label {days : Int} (h : 0 < days) :
    amount? (words (label days).toList) = some days.toNat := by
  have hsum := Nat.div_add_mod days.toNat 7
  unfold label
  rw [if_neg (by omega), if_neg (by omega)]
  dsimp only
  split
  · next hweeks =>
    rw [amount?_counted isUnit_day, Option.some_inj]
    omega
  · split
    · next hrest =>
      rw [amount?_counted isUnit_week, Option.some_inj]
      omega
    · -- The comma ends the weeks, the blank behind it is passed, and the days are read alone.
      have hcomma : (counted (days.toNat / 7) "WEEK" ++ ", " ++
          counted (days.toNat % 7) "DAY").toList = (counted (days.toNat / 7) "WEEK").toList ++
            ',' :: ' ' :: (counted (days.toNat % 7) "DAY").toList := by
        simp
      rw [hcomma, amount?_counted_append isUnit_week _ (by simp [isGap]), words_gap (by decide),
        words_gap (by decide), amount?_counted isUnit_day, Option.map_some, Option.some_inj]
      omega

/-- **A header says the days that it was written for**, or that they are over. -/
theorem days?_label (days : Int) : days? (label days) = some (max days (-1)) := by
  rcases Int.lt_trichotomy days 0 with hneg | rfl | hpos
  · have hlabel : label days = "THE DAWN OF TIME" := if_pos hneg
    rw [hlabel, show max days (-1) = -1 by omega]
    decide
  · decide
  · unfold days?
    rw [amount?_label hpos]
    dsimp only
    rw [Option.some_inj]
    omega

/-- **Which numbers of days have one header**: none but those of days that are over. -/
theorem label_eq_iff {a b : Int} : label a = label b ↔ a = b ∨ a < 0 ∧ b < 0 := by
  constructor
  · intro h
    have hdays := congrArg days? h
    rw [days?_label, days?_label, Option.some_inj] at hdays
    omega
  · rintro (rfl | ⟨ha, hb⟩)
    · rfl
    · rw [label, label, if_pos ha, if_pos hb]

/-! ## Bands -/

/-- **The headers of bands of one day each are distinct.**

**Proof sketch.** Each band has a certificate, and its header is the label of the days of that
certificate. Equal labels mean equal days or days that are over (`label_eq_iff`), of which there is
only one number; and two bands with the same days are the same band. -/
theorem IsByDay.nodup_labels {now : Int64} {certificates : List Certificate} {bands : List Band}
    (h : IsByDay now certificates bands) : (bands.map Band.label).Nodup := by
  rw [List.nodup_iff_pairwise_ne, List.pairwise_map, List.pairwise_iff_getElem]
  intro i j hi hj hij heq
  obtain ⟨c, hc⟩ := List.exists_mem_of_ne_nil _ (h.ne_nil bands[i] (List.getElem_mem hi))
  obtain ⟨d, hd⟩ := List.exists_mem_of_ne_nil _ (h.ne_nil bands[j] (List.getElem_mem hj))
  rw [(h.header _ (List.getElem_mem hi) c hc).1, (h.header _ (List.getElem_mem hj) d hd).1,
    label_eq_iff] at heq
  -- Of days that are over there is only one number, so that the two bands are one day.
  have hday : daysRemaining c.notAfter now = daysRemaining d.notAfter now := by
    have hlow := (daysRemaining_bounds c.notAfter now).1
    have hlow' := (daysRemaining_bounds d.notAfter now).1
    omega
  have hsame : i = j := (h.day i j _ _ (List.getElem?_eq_getElem hi) (List.getElem?_eq_getElem hj)
    c hc d hd).mpr hday
  omega

/-- **Headers identify days.** Two numbers of days have one header only if they are the same, or if
both are of days that are over; these all have one. So above the bands of certificates in the order
of expiry and within reach no header stands twice, nor above those within any horizon. -/
theorem label_identifies :
    (∀ a b : Int, label a = label b ↔ a = b ∨ a < 0 ∧ b < 0) ∧
      ∀ (now : Int64) (certificates : List Certificate), Ascending certificates →
        (∀ c ∈ certificates, c.notAfter.toInt - now.toInt ≤ 9223372036854720000) →
          ((bands now certificates).map Band.label).Nodup ∧
            ∀ horizon : Horizon, ((bandsWithin now horizon certificates).map Band.label).Nodup := by
  refine ⟨fun a b => label_eq_iff, fun now certificates h hreach => ⟨?_, fun horizon => ?_⟩⟩
  · exact (isByDay_bands h hreach).nodup_labels
  · have hsub : (Cursor.start certificates now horizon).drain.Sublist certificates :=
      List.takeWhile_sublist _
    exact (isByDay_bands (h.sublist hsub) fun c hc => hreach c (hsub.subset hc)).nodup_labels

/-- Four certificates, one of them expired, with a header each.

**Proof sketch.** The list is ascending and within reach by evaluation, and `label_identifies` is
applied to it. The headers are computed with the fold of the bands, since that is what evaluates. -/
theorem label_identifies_week :
    let certificates : List Certificate := [⟨"expired", -5, []⟩, ⟨"today", 1, []⟩,
      ⟨"tomorrow", 90000, []⟩, ⟨"next week", 777600, []⟩]
    Ascending certificates ∧
      (∀ c ∈ certificates, c.notAfter.toInt - (0 : Int64).toInt ≤ 9223372036854720000) ∧
      (bands 0 certificates).map Band.label =
        ["THE DAWN OF TIME", "NOW", "1 DAY", "1 WEEK, 1 DAY"] ∧
      ((bands 0 certificates).map Band.label).Nodup := by
  intro certificates
  have hsorted : Ascending certificates := by
    unfold Ascending
    decide
  have hreach : ∀ c ∈ certificates,
      c.notAfter.toInt - (0 : Int64).toInt ≤ 9223372036854720000 := by decide
  refine ⟨hsorted, hreach, ?_, (label_identifies.2 0 certificates hsorted hreach).1⟩
  rw [bands_eq_foldl]
  decide

/-- **The bound is exact**: of two certificates of one expiry the second one gets a band of its own,
under the header of the first one, if and only if the expiry is beyond reach. -/
theorem nodup_labels_pair_iff {c d : Certificate} (h : d.notAfter = c.notAfter) (now : Int64) :
    ((bands now [c, d]).map Band.label).Nodup ↔ c.notAfter.toInt - now.toInt ≤ reach := by
  have hcutoff : (Band.opened now c).cutoff = dayEnd (daysRemaining c.notAfter now) now := rfl
  have hlabel : (Band.opened now d).label = (Band.opened now c).label := by
    simp only [Band.opened, h]
  rw [← le_dayEnd_iff_reach, ← hcutoff]
  by_cases hle : c.notAfter ≤ (Band.opened now c).cutoff
  · simp [bands, h, hle]
  · simp [bands, h, hle, hlabel]

end Expiry

end CertDashboard
