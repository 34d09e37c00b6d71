import CertDashboard.Config
import Mathlib.Data.List.TakeWhile

set_option autoImplicit false
set_option relaxedAutoImplicit false

/-!
# What the values of settings stand for

A value counts without the blanks around it, and if it has no characters but blanks, it does not
count at all. A number is written in decimal, a level by its name or by its number.

## Main definitions

* `CertDashboard.Decimal.Denotes` — the number that a text denotes.
* `CertDashboard.LogLevel.IsSpelled` — the texts that stand for a level.
* `CertDashboard.Config.IsGiven` — the value that is given under a name.

## Main results

* `CertDashboard.Decimal.unsigned?_eq_some_iff`, `CertDashboard.LogLevel.read?_eq_some_iff`,
  `CertDashboard.Config.given_eq_some_iff` — what is read is what is meant.
-/

namespace CertDashboard

/-! ## Blanks -/

namespace Text

/-- Dropping blanks from the end leaves nothing but of blanks. -/
theorem trimEnd_eq_nil_iff {cs : List Char} :
    trimEnd cs = [] ↔ ∀ c ∈ cs, isBlank c = true := by
  rw [trimEnd, List.reverse_eq_nil_iff, List.dropWhile_eq_nil_iff]
  simp

/-- **Nothing is left of a text without blanks around it** if and only if it is blank. -/
theorem trim_eq_empty_iff {s : String} : trim s = "" ↔ ∀ c ∈ s.toList, isBlank c = true := by
  rw [← String.toList_inj, toList_trim, trimChars, String.toList_empty, trimEnd_eq_nil_iff]
  constructor
  · intro h c hc
    rw [← List.takeWhile_append_dropWhile (p := isBlank) (l := s.toList), List.mem_append] at hc
    rcases hc with hc | hc
    · exact List.all_eq_true.mp List.all_takeWhile c hc
    · exact h c hc
  · intro h c hc
    exact h c ((List.dropWhile_sublist _).mem hc)

end Text

/-! ## Numbers -/

namespace Decimal

/-- **The number that a text denotes**: decimal digits, at least one, with at most one plus sign in
front. -/
def Denotes (s : String) (n : Nat) : Prop :=
  ∃ ds : List Char, ds ≠ [] ∧ (∀ c ∈ ds, c.isDigit = true) ∧
    (s.toList = ds ∨ s.toList = '+' :: ds) ∧ Nat.ofDigitChars 10 ds 0 = n

/-- A run of digits is read as the number that it denotes. -/
theorem read?_eq_some_iff {ds : List Char} {n : Nat} : read? ds = some n ↔
    ds ≠ [] ∧ (∀ c ∈ ds, c.isDigit = true) ∧ Nat.ofDigitChars 10 ds 0 = n := by
  simp [read?, and_assoc]

/-- A text denotes what is read behind its sign. -/
theorem denotes_iff {s : String} {n : Nat} : Denotes s n ↔ read? (dropPlus s.toList) = some n := by
  rw [read?_eq_some_iff]
  constructor
  · rintro ⟨ds, hne, hdigits, hs | hs, hn⟩
    · rw [hs, dropPlus_of_digits hdigits]
      exact ⟨hne, hdigits, hn⟩
    · rw [hs]
      exact ⟨hne, hdigits, hn⟩
  · rintro ⟨hne, hdigits, hn⟩
    refine ⟨dropPlus s.toList, hne, hdigits, ?_, hn⟩
    unfold dropPlus
    split
    · next hs => exact .inr hs
    · exact .inl rfl

/-- A text denotes one number. -/
theorem Denotes.unique {s : String} {m n : Nat} (hm : Denotes s m) (hn : Denotes s n) : m = n := by
  rw [denotes_iff] at hm hn
  exact Option.some_inj.mp (hm.symm.trans hn)

/-- **What is read with a bound** is the number that the text denotes, if it keeps the bound. -/
theorem unsigned?_eq_some_iff {bound n : Nat} {s : String} :
    unsigned? bound s = some n ↔ Denotes s n ∧ n ≤ bound := by
  rw [denotes_iff, unsigned?]
  split
  · next m hm =>
    rw [hm]
    constructor
    · intro h
      split at h
      · next hle => exact ⟨h, Option.some_inj.mp h ▸ hle⟩
      · cases h
    · rintro ⟨h, hle⟩
      rw [h, if_pos (Option.some_inj.mp h ▸ hle)]
  · next hnone => simp [hnone]

/-- A text that denotes a number has a digit. -/
theorem Denotes.exists_digit {s : String} {n : Nat} (h : Denotes s n) :
    ∃ c ∈ s.toList, c.isDigit = true := by
  obtain ⟨ds, hne, hdigits, hs, -⟩ := h
  obtain ⟨c, rest, rfl⟩ := List.exists_cons_of_ne_nil hne
  have hc := hdigits c List.mem_cons_self
  rcases hs with hs | hs
  · exact ⟨c, by simp [hs], hc⟩
  · exact ⟨c, by simp [hs], hc⟩

end Decimal

/-! ## Levels -/

namespace LogLevel

/-- The number of a level, from one. -/
def number : LogLevel → Nat
  | .error => 1
  | .warn => 2
  | .info => 3
  | .debug => 4
  | .trace => 5

/-- **The texts that stand for a level**: its number, and its name in any case of its letters. -/
def IsSpelled (s : String) (level : LogLevel) : Prop :=
  Decimal.Denotes s level.number ∨ s.toList.map Char.toUpper = level.name.toList

/-- Levels are numbered in order. -/
theorem getElem?_all_eq_some_iff {level : LogLevel} {n : Nat} :
    all[n]? = some level ↔ level.number = n + 1 := by
  rcases n with _ | _ | _ | _ | _ | n <;> cases level <;> simp [all, number]

/-- Levels have different names. -/
theorem find?_name_eq_some_iff {level : LogLevel} {cs : List Char} :
    (all.find? fun l => l.name.toList == cs) = some level ↔ cs = level.name.toList := by
  constructor
  · intro h
    have hname := List.find?_some (p := fun l : LogLevel => l.name.toList == cs) h
    exact (eq_of_beq hname).symm
  · rintro rfl
    cases level <;> rfl

/-- No name of a level has a digit, in whatever case.

**Proof sketch.** A text that denotes a number has a digit (`Decimal.Denotes.exists_digit`). No
digit is a lower-case letter, so `Char.toUpper` keeps it; but the names of levels are letters
only. -/
theorem map_toUpper_ne_of_denotes {s : String} {n : Nat} (h : Decimal.Denotes s n)
    (level : LogLevel) : s.toList.map Char.toUpper ≠ level.name.toList := by
  intro hname
  obtain ⟨c, hc, hdigit⟩ := h.exists_digit
  have hupper : c.toUpper = c := by
    simp only [Char.isDigit, Bool.and_eq_true, decide_eq_true_eq] at hdigit
    have hlower : ¬ ('a'.val ≤ c.val ∧ c.val ≤ 'z'.val) := fun hletter =>
      absurd (UInt32.le_trans hletter.1 hdigit.2) (by decide)
    exact dif_neg hlower
  have hmem : c ∈ level.name.toList := by
    rw [← hname, ← hupper]
    exact List.mem_map_of_mem hc
  have hletters : level.name.toList.all (fun d => !d.isDigit) = true := by
    cases level <;> rfl
  have hletter := List.all_eq_true.mp hletters c hmem
  simp [hdigit] at hletter

/-- **A level is read from the texts that stand for it**, and from no others.

**Proof sketch.** Along the cases of the reader: the number zero, which no level has, another
number, or none, when the name is looked for. A text that denotes a number is no name
(`map_toUpper_ne_of_denotes`), and the numbers of levels are small enough to be read as such. -/
theorem read?_eq_some_iff {level : LogLevel} {s : String} :
    read? s = some level ↔ IsSpelled s level := by
  unfold read? IsSpelled
  split
  · next hzero =>
    obtain ⟨hdenotes, -⟩ := Decimal.unsigned?_eq_some_iff.mp hzero
    refine ⟨nofun, ?_⟩
    rintro (hnumber | hname)
    · have hpos : level.number ≠ 0 := by cases level <;> decide
      exact absurd (hnumber.unique hdenotes) hpos
    · exact absurd hname (map_toUpper_ne_of_denotes hdenotes level)
  · next n hn =>
    obtain ⟨hdenotes, -⟩ := Decimal.unsigned?_eq_some_iff.mp hn
    rw [getElem?_all_eq_some_iff]
    constructor
    · intro hnumber
      exact .inl (hnumber ▸ hdenotes)
    · rintro (hnumber | hname)
      · exact hnumber.unique hdenotes
      · exact absurd hname (map_toUpper_ne_of_denotes hdenotes level)
  · next hnone =>
    rw [find?_name_eq_some_iff]
    refine ⟨.inr, ?_⟩
    rintro (hnumber | hname)
    · have hle : level.number ≤ UInt64.size - 1 := by cases level <;> decide
      rw [Decimal.unsigned?_eq_some_iff.mpr ⟨hnumber, hle⟩] at hnone
      exact nomatch hnone
    · exact hname

end LogLevel

/-! ## Values that are given -/

namespace Config

/-- **The value that is given under a name**: what is looked up there, without the blanks around it,
if anything is left of it. -/
def IsGiven (lookup : String → Option String) (name value : String) : Prop :=
  ∃ raw, lookup name = some raw ∧ Text.trim raw = value ∧ value ≠ ""

/-- What is taken from a source is what is given there. -/
theorem given_eq_some_iff {lookup : String → Option String} {name value : String} :
    given lookup name = some value ↔ IsGiven lookup name value := by
  simp only [given, Option.filter_eq_some_iff, Option.map_eq_some_iff, decide_eq_true_eq, IsGiven]
  constructor
  · rintro ⟨⟨raw, hraw, htrim⟩, hne⟩
    exact ⟨raw, hraw, htrim, hne⟩
  · rintro ⟨raw, hraw, htrim, hne⟩
    exact ⟨⟨raw, hraw, htrim⟩, hne⟩

/-- **A blank value is not given**, and neither is one that is not there. -/
theorem given_eq_none_iff {lookup : String → Option String} {name : String} :
    given lookup name = none ↔
      ∀ raw ∈ lookup name, ∀ c ∈ raw.toList, Text.isBlank c = true := by
  cases hraw : lookup name with
  | none => simp [given, hraw]
  | some raw => simp [given, hraw, Option.filter_eq_none_iff, Text.trim_eq_empty_iff]

end Config

end CertDashboard
