import CertDashboard.Color
import Mathlib.Algebra.Order.Floor.Ring
import Mathlib.Data.Rat.Floor
import Mathlib.Tactic.FieldSimp
import Mathlib.Tactic.Linarith
import Mathlib.Tactic.NormNum
import Mathlib.Tactic.Ring

set_option autoImplicit false
set_option relaxedAutoImplicit false

/-!
# The gradient as a path of colors

In rational numbers the gradient is exact: from the day of expiry on, it is a path of straight
segments, each of which starts where the one before it ends. The red of the first days is a segment,
too, from red to red. What holds of the ends of all segments holds between them, and a bound on how
steep each segment is bounds the whole path.

## Main definitions

* `CertDashboard.Rgb.get` — a channel of a color.
* `CertDashboard.Rgb.along` — the color of a day on segments, and of the days behind them.
* `CertDashboard.Rgb.IsPath` — segments that lead from one color to another one.
* `CertDashboard.Hex.bytes?` — the bytes that digits denote, which are lower-case ones where they
  are written (`CertDashboard.Hex.IsLower`).

## Main results

* `CertDashboard.Channel.abs_byte_sub_le` — the byte of a channel is the nearest one.
* `CertDashboard.Rgb.IsPath.abs_along_sub_le` — a path is as steep as its segments at most.
* `CertDashboard.Rgb.gradient_eq_along` — the gradient is such a path.
* `CertDashboard.Rgb.gradient_isPath` — its range, its steepness, its segments and its bytes.
-/

namespace CertDashboard

/-! ## Rational channels -/

/-- A whole number is what it is. -/
@[simp] theorem Channel.whole_rat (n : ℕ) : (Channel.whole n : ℚ) = n := rfl

/-- Less is less. -/
@[simp] theorem Channel.less_rat (a b : ℚ) : Channel.less a b = decide (a < b) := rfl

/-- **The byte of a channel is the nearest one**, at most a half away.

**Proof sketch.** The floor of `x + 1 / 2` is between zero and 255, so that neither the test nor the
byte cuts anything off. It is at most `x + 1 / 2` and more than `x - 1 / 2`. -/
theorem Channel.abs_byte_sub_le {x : ℚ} (hlow : 0 ≤ x) (hhigh : x ≤ 255) :
    |((Channel.byte x).toNat : ℚ) - x| ≤ 1 / 2 := by
  have hnonneg : 0 ≤ ⌊x + 1 / 2⌋ := Int.floor_nonneg.mpr (by linarith)
  have hlt : ⌊x + 1 / 2⌋ < 256 := Int.floor_lt.mpr (by push_cast; linarith)
  have hnat : (Channel.byte x).toNat = ⌊x + 1 / 2⌋.toNat := by
    change (UInt8.ofNat (min 255 ⌊x + 1 / 2⌋.toNat)).toNat = _
    have hbyte : ⌊x + 1 / 2⌋.toNat < 256 := (Int.toNat_lt hnonneg).mpr hlt
    rw [min_eq_right (Nat.le_of_lt_succ hbyte), UInt8.toNat_ofNat_of_lt' hbyte]
  have hcast : ((Channel.byte x).toNat : ℚ) = ⌊x + 1 / 2⌋ := by
    rw [hnat]
    exact_mod_cast Int.toNat_of_nonneg hnonneg
  have hbelow := Int.floor_le (x + 1 / 2)
  have habove := Int.lt_floor_add_one (x + 1 / 2)
  rw [hcast, abs_le]
  constructor <;> linarith

/-! ## Bytes as digits -/

namespace Hex

/-- **The bytes that digits denote**, two digits each. -/
def bytes? : List Char → Option (List Nat)
  | [] => some []
  | [_] => none
  | high :: low :: rest => do
    let h ← value? high
    let l ← value? low
    let bytes ← bytes? rest
    return (16 * h + l) :: bytes

/-- A lower-case hexadecimal digit. -/
def IsLower (c : Char) : Prop :=
  '0' ≤ c ∧ c ≤ '9' ∨ 'a' ≤ c ∧ c ≤ 'f'

/-- Digits are lower-case ones. -/
theorem isLower_digit (n : Nat) : IsLower (digit n) := by
  have h : ∀ m < 16, '0' ≤ Nat.digitChar m ∧ Nat.digitChar m ≤ '9' ∨
      'a' ≤ Nat.digitChar m ∧ Nat.digitChar m ≤ 'f' := by decide
  exact h _ (Nat.mod_lt _ (by decide))

/-- A byte is written with two lower-case digits. -/
theorem isLower_byte {b : UInt8} {c : Char} (h : c ∈ byte b) : IsLower c := by
  rcases List.mem_pair.mp h with rfl | rfl <;> exact isLower_digit _

/-- **Reading a byte undoes writing it.** -/
theorem bytes?_byte_append (b : UInt8) (rest : List Char) :
    bytes? (byte b ++ rest) = (bytes? rest).map (b.toNat :: ·) := by
  have hhigh : b.toNat / 16 % 16 = b.toNat / 16 := by have := b.toNat_lt; omega
  have hbyte : 16 * (b.toNat / 16) + b.toNat % 16 = b.toNat := Nat.div_add_mod _ _
  simp only [byte, List.cons_append, List.nil_append, bytes?, value?_digit, hhigh,
    Option.bind_eq_bind, Option.bind_some, hbyte, Option.pure_def, Option.map_eq_bind]
  rfl

end Hex

namespace Rgb

/-! ## Channels -/

/-- The three channels of a color. -/
inductive Component where
  /-- Red. -/
  | red
  /-- Green. -/
  | green
  /-- Blue. -/
  | blue
  deriving DecidableEq, Repr

/-- **A channel of a color.** -/
def get {α : Type} (c : Rgb α) : Component → α
  | .red => c.red
  | .green => c.green
  | .blue => c.blue

/-- Colors with the same channels are the same. -/
theorem ext_get {α : Type} {c d : Rgb α} (h : ∀ k, c.get k = d.get k) : c = d := by
  obtain ⟨red, green, blue⟩ := c
  obtain rfl : red = d.red := h .red
  obtain rfl : green = d.green := h .green
  obtain rfl : blue = d.blue := h .blue
  rfl

/-- A step toward another color is one in each channel. -/
theorem get_shift (start target : Rgb ℚ) (fraction : ℚ) (k : Component) :
    (start.shift target fraction).get k =
      start.get k + (target.get k - start.get k) * fraction := by
  cases k <;> rfl

namespace Segment

variable {s : Segment ℚ}

/-- **A segment is straight**: its color is as far on the way as the day is. -/
theorem get_color (h : s.lower < s.upper) (days : ℚ) (k : Component) : (s.color days).get k =
    s.start.get k + (s.target.get k - s.start.get k) * (days - s.lower) / (s.upper - s.lower) := by
  have hwidth : (s.upper : ℚ) - s.lower ≠ 0 := sub_ne_zero.mpr (by exact_mod_cast h.ne')
  have hcolor : (s.color days).get k = s.start.get k + (s.target.get k - s.start.get k) *
      (((1 : ℕ) : ℚ) - ((s.upper : ℚ) - days) / ((s.upper : ℚ) - s.lower)) := get_shift _ _ _ _
  rw [hcolor]
  push_cast
  field_simp
  ring

/-- A segment starts with its first color. -/
theorem color_lower (h : s.lower < s.upper) (k : Component) :
    (s.color s.lower).get k = s.start.get k := by
  rw [get_color h, sub_self, mul_zero, zero_div, add_zero]

/-- A segment ends with its last color. -/
theorem color_upper (h : s.lower < s.upper) (k : Component) :
    (s.color s.upper).get k = s.target.get k := by
  have hwidth : (s.upper : ℚ) - s.lower ≠ 0 := sub_ne_zero.mpr (by exact_mod_cast h.ne')
  rw [get_color h, mul_div_assoc, div_self hwidth, mul_one]
  ring

/-- **The color of a day on a segment is between the two colors at its ends.**

**Proof sketch.** The color is a mean of the two ends, with weights that are the fraction of the way
that is done and the rest of it (`get_color`). Both weights are not negative on the segment, so the
mean keeps any bounds of the ends. -/
theorem color_mem {low high : ℚ} {k : Component} (h : s.lower < s.upper)
    (hstart : low ≤ s.start.get k ∧ s.start.get k ≤ high)
    (htarget : low ≤ s.target.get k ∧ s.target.get k ≤ high) {days : ℚ} (hlower : s.lower ≤ days)
    (hupper : days ≤ s.upper) : low ≤ (s.color days).get k ∧ (s.color days).get k ≤ high := by
  have hwidth : (0 : ℚ) < s.upper - s.lower := sub_pos.mpr (by exact_mod_cast h)
  rw [get_color h, mul_div_assoc]
  obtain ⟨fraction, hfraction⟩ : ∃ x, x = (days - s.lower) / (s.upper - s.lower) := ⟨_, rfl⟩
  have hpos : 0 ≤ fraction := hfraction ▸ div_nonneg (sub_nonneg.mpr hlower) hwidth.le
  have hrest : 0 ≤ 1 - fraction :=
    sub_nonneg.mpr (hfraction ▸ (div_le_one hwidth).mpr (sub_le_sub_right hupper _))
  rw [← hfraction]
  constructor
  · have hfar := mul_nonneg hpos (sub_nonneg.mpr htarget.1)
    have hnear := mul_nonneg hrest (sub_nonneg.mpr hstart.1)
    linarith
  · have hfar := mul_nonneg hpos (sub_nonneg.mpr htarget.2)
    have hnear := mul_nonneg hrest (sub_nonneg.mpr hstart.2)
    linarith

/-- **A segment is as steep as its ends are apart.**

**Proof sketch.** On a segment the component is affine (`get_color`), so two of its values differ by
the slope times the distance of the days. The hypothesis bounds the slope. -/
theorem abs_color_sub_le {steep : ℚ} {k : Component} (h : s.lower < s.upper)
    (hsteep : |s.target.get k - s.start.get k| ≤ steep * (s.upper - s.lower)) {a b : ℚ}
    (hab : a ≤ b) : |(s.color a).get k - (s.color b).get k| ≤ steep * (b - a) := by
  have hwidth : (0 : ℚ) < s.upper - s.lower := sub_pos.mpr (by exact_mod_cast h)
  have hdiff : (s.color a).get k - (s.color b).get k =
      (s.target.get k - s.start.get k) / (s.upper - s.lower) * (a - b) := by
    rw [get_color h, get_color h]
    ring
  have hslope : |(s.target.get k - s.start.get k) / (s.upper - s.lower)| ≤ steep := by
    rw [abs_div, abs_of_pos hwidth]
    exact (div_le_iff₀ hwidth).mpr hsteep
  calc |(s.color a).get k - (s.color b).get k|
      = |(s.target.get k - s.start.get k) / (s.upper - s.lower)| * (b - a) := by
        rw [hdiff, abs_mul, abs_of_nonpos (sub_nonpos.mpr hab), neg_sub]
    _ ≤ steep * (b - a) := mul_le_mul_of_nonneg_right hslope (sub_nonneg.mpr hab)

end Segment

/-! ## Paths -/

/-- **The color of a day on segments**, and of the days behind them. -/
def along (segments : List (Segment ℚ)) (beyond : Rgb ℚ) (days : ℚ) : Rgb ℚ :=
  match segments.find? fun s => decide (days < s.upper) with
  | some s => s.color days
  | none => beyond

/-- **Segments that lead from one color to another one**, the first of them from a day on. -/
inductive IsPath : Nat → Rgb ℚ → List (Segment ℚ) → Rgb ℚ → Prop where
  /-- No segments lead from a color to itself. -/
  | nil (day : Nat) (color : Rgb ℚ) : IsPath day color [] color
  /-- A segment leads to where the others start. -/
  | cons {s : Segment ℚ} {rest : List (Segment ℚ)} {last : Rgb ℚ} : s.lower < s.upper →
    IsPath s.upper s.target rest last → IsPath s.lower s.start (s :: rest) last

/-- A day in front of the end of the first segment is on that. -/
theorem along_cons_of_lt {s : Segment ℚ} {days : ℚ} (h : days < s.upper)
    (rest : List (Segment ℚ)) (beyond : Rgb ℚ) : along (s :: rest) beyond days = s.color days := by
  simp [along, h]

/-- Any other day is on the other segments or behind them. -/
theorem along_cons_of_le {s : Segment ℚ} {days : ℚ} (h : s.upper ≤ days)
    (rest : List (Segment ℚ)) (beyond : Rgb ℚ) :
    along (s :: rest) beyond days = along rest beyond days := by
  simp [along, not_lt.mpr h]

namespace IsPath

variable {day : Nat} {first last : Rgb ℚ} {segments : List (Segment ℚ)}

/-- No segment starts in front of the path. -/
theorem le_lower (h : IsPath day first segments last) {s : Segment ℚ} (hs : s ∈ segments) :
    day ≤ s.lower ∧ s.lower < s.upper := by
  induction h with
  | nil => exact absurd hs List.not_mem_nil
  | cons hlt _ ih =>
    rcases List.mem_cons.mp hs with rfl | hs
    · exact ⟨le_rfl, hlt⟩
    · exact ⟨hlt.le.trans (ih hs).1, (ih hs).2⟩

/-- A path starts with its first color. -/
theorem along_first (h : IsPath day first segments last) (k : Component) :
    (along segments last day).get k = first.get k := by
  cases h with
  | nil => rfl
  | cons hlt _ => rw [along_cons_of_lt (by exact_mod_cast hlt), Segment.color_lower hlt]

/-- **A day of a segment has the color that the segment gives it.** -/
theorem along_of_mem (h : IsPath day first segments last) {s : Segment ℚ} (hs : s ∈ segments)
    {days : ℚ} (hlower : s.lower ≤ days) (hupper : days < s.upper) :
    along segments last days = s.color days := by
  induction h with
  | nil => exact absurd hs List.not_mem_nil
  | cons _ hrest ih =>
    rcases List.mem_cons.mp hs with rfl | hs
    · exact along_cons_of_lt hupper _ _
    · have hle : (_ : ℚ) ≤ s.lower := Nat.cast_le.mpr (hrest.le_lower hs).1
      rw [along_cons_of_le (hle.trans hlower), ih hs]

/-- **A path stays between bounds that its corners keep.** -/
theorem along_mem {low high : ℚ} {k : Component} (h : IsPath day first segments last)
    (hfirst : low ≤ first.get k ∧ first.get k ≤ high)
    (htargets : ∀ s ∈ segments, low ≤ s.target.get k ∧ s.target.get k ≤ high) {days : ℚ}
    (hdays : day ≤ days) :
    low ≤ (along segments last days).get k ∧ (along segments last days).get k ≤ high := by
  induction h with
  | nil => exact hfirst
  | @cons s rest last hlt _ ih =>
    obtain ⟨htarget, hothers⟩ := List.forall_mem_cons.mp htargets
    rcases lt_or_ge days s.upper with hupper | hupper
    · rw [along_cons_of_lt hupper]
      exact Segment.color_mem hlt hfirst htarget hdays hupper.le
    · rw [along_cons_of_le hupper]
      exact ih htarget hothers hupper

/-- **A path is as steep as its segments at most.**

**Proof sketch.** Induction on the path. Two days of its first segment are as far apart as that is
steep (`Segment.abs_color_sub_le`), and two days behind it are by induction. Of one day on it and
one behind it, the way between them goes through the end of the segment, where the path is
continuous. -/
theorem abs_along_sub_le {steep : ℚ} {k : Component} (h : IsPath day first segments last)
    (hsteep : ∀ s ∈ segments, |s.target.get k - s.start.get k| ≤ steep * (s.upper - s.lower))
    (hnonneg : 0 ≤ steep) {a b : ℚ} (ha : day ≤ a) (hab : a ≤ b) :
    |(along segments last a).get k - (along segments last b).get k| ≤ steep * (b - a) := by
  induction h generalizing a with
  | nil day color =>
    have hsame : along [] color a = along [] color b := rfl
    rw [hsame, sub_self, abs_zero]
    exact mul_nonneg hnonneg (sub_nonneg.mpr hab)
  | @cons s rest last hlt hrest ih =>
    obtain ⟨hfirst, hothers⟩ := List.forall_mem_cons.mp hsteep
    rcases lt_or_ge a s.upper with hupper | hupper
    · rw [along_cons_of_lt hupper]
      rcases lt_or_ge b s.upper with hupper' | hupper'
      · rw [along_cons_of_lt hupper']
        exact Segment.abs_color_sub_le hlt hfirst hab
      · have hcorner : (along rest last s.upper).get k = (s.color s.upper).get k := by
          rw [hrest.along_first, Segment.color_upper hlt]
        have hnear := Segment.abs_color_sub_le hlt hfirst hupper.le
        have hfar := ih hothers le_rfl hupper'
        rw [along_cons_of_le hupper']
        rw [hcorner] at hfar
        calc |(s.color a).get k - (along rest last b).get k|
            ≤ |(s.color a).get k - (s.color s.upper).get k| +
                |(s.color s.upper).get k - (along rest last b).get k| := abs_sub_le _ _ _
          _ ≤ steep * (s.upper - a) + steep * (b - s.upper) := add_le_add hnear hfar
          _ = steep * (b - a) := by ring
    · rw [along_cons_of_le hupper, along_cons_of_le (hupper.trans hab)]
      exact ih hothers hupper hab

end IsPath

/-! ## The gradient -/

/-- **The red of the first days**, a segment as well. -/
def floor : Segment ℚ :=
  ⟨0, 3, Palette.red, Palette.red⟩

/-- The segments lead from red to green, the first days included. -/
theorem isPath_segments : IsPath 0 Palette.red (floor :: segments) Palette.green := by
  refine .cons (s := floor) (by decide) ?_
  refine .cons (s := ⟨3, 7, _, _⟩) (by decide) ?_
  refine .cons (s := ⟨7, 14, _, _⟩) (by decide) ?_
  refine .cons (s := ⟨14, 21, _, _⟩) (by decide) ?_
  exact .cons (s := ⟨21, 28, _, _⟩) (by decide) (.nil 28 Palette.green)

/-- In the first days, red stays red. -/
theorem color_floor (days : ℚ) : floor.color days = Palette.red := by
  refine ext_get fun k => ?_
  rw [Segment.get_color (by decide)]
  simp [floor]

/-- **From the day of expiry on, the gradient is that path.** -/
theorem gradient_eq_along {days : ℚ} (h : 0 ≤ days) :
    gradient days = along (floor :: segments) Palette.green days := by
  simp only [gradient, Channel.less_rat, Channel.whole_rat, Nat.cast_zero, Nat.cast_ofNat,
    decide_eq_true_eq, if_neg (not_lt.mpr h)]
  rcases lt_or_ge days 3 with hthree | hthree
  · rw [if_pos hthree, along_cons_of_lt (s := floor) hthree, color_floor]
  · rw [if_neg (not_lt.mpr hthree), along_cons_of_le (s := floor) hthree]
    unfold along
    cases segments.find? fun s : Segment ℚ => decide (days < s.upper) <;> rfl

/-- Corners have channels of a byte. -/
theorem corners_mem (k : Component) : ∀ s ∈ floor :: segments,
    0 ≤ s.target.get k ∧ s.target.get k ≤ 255 := by
  cases k <;> decide

/-- **Every color of the gradient has channels of a byte**, the black of what has expired
included. -/
theorem gradient_mem (days : ℚ) (k : Component) :
    0 ≤ (gradient days).get k ∧ (gradient days).get k ≤ 255 := by
  rcases lt_or_ge days 0 with hdays | hdays
  · have hblack : gradient days = Palette.black := by simp [gradient, hdays]
    rw [hblack]
    cases k <;> decide
  · rw [gradient_eq_along hdays]
    exact isPath_segments.along_mem (corners_mem k floor List.mem_cons_self) (corners_mem k)
      (by exact_mod_cast hdays)

/-- No segment is steeper than the red of the last one. -/
theorem steepness_le (k : Component) : ∀ s ∈ floor :: segments,
    |s.target.get k - s.start.get k| ≤ 160 / 7 * ((s.upper : ℚ) - s.lower) := by
  simp only [floor, segments, List.forall_mem_cons]
  cases k <;> norm_num [get, Palette.red, Palette.orange, Palette.amber, Palette.yellow,
    Palette.green, ofNats, abs_le]

/-- **Two days have colors as far apart as the steepest segment allows**, on different segments,
too. -/
theorem abs_gradient_sub_le {a b : ℚ} (ha : 0 ≤ a) (hb : 0 ≤ b) (k : Component) :
    |(gradient a).get k - (gradient b).get k| ≤ 160 / 7 * |a - b| := by
  wlog hab : a ≤ b generalizing a b
  · rw [abs_sub_comm, abs_sub_comm a]
    exact this hb ha (le_of_not_ge hab)
  rw [gradient_eq_along ha, gradient_eq_along hb, abs_of_nonpos (sub_nonpos.mpr hab), neg_sub]
  exact isPath_segments.abs_along_sub_le (steepness_le k) (by norm_num) (by exact_mod_cast ha) hab

/-- **On a segment, the gradient is straight.** -/
theorem gradient_of_mem {s : Segment ℚ} (hs : s ∈ segments) {days : ℚ} (hlower : s.lower ≤ days)
    (hupper : days < s.upper) (k : Component) : (gradient days).get k = s.start.get k +
      (s.target.get k - s.start.get k) * (days - s.lower) / (s.upper - s.lower) := by
  have hmem : s ∈ floor :: segments := List.mem_cons_of_mem _ hs
  have hdays : 0 ≤ days := le_trans (Nat.cast_nonneg _) hlower
  rw [gradient_eq_along hdays, isPath_segments.along_of_mem hmem hlower hupper,
    Segment.get_color (isPath_segments.le_lower hmem).2]

/-- **The digits of a color denote its bytes.** -/
theorem bytes?_toHex (c : Rgb ℚ) : ∃ digits, c.toHex = String.ofList ('#' :: digits) ∧
    digits.length = 6 ∧ (∀ d ∈ digits, Hex.IsLower d) ∧
    Hex.bytes? digits = some [(Channel.byte c.red).toNat, (Channel.byte c.green).toNat,
      (Channel.byte c.blue).toNat] := by
  refine ⟨_, rfl, rfl, ?_, ?_⟩
  · intro d hd
    simp only [List.mem_append] at hd
    rcases hd with (hd | hd) | hd <;> exact Hex.isLower_byte hd
  · rw [List.append_assoc, Hex.bytes?_byte_append, Hex.bytes?_byte_append,
      ← List.append_nil (Hex.byte (Channel.byte c.blue)), Hex.bytes?_byte_append, Hex.bytes?]
    simp

/-- **The gradient is a path of colors.** Every channel is that of a byte. From the day of expiry
on, two days have colors that are at most `160/7` apart per day between them, so that there is no
step from one segment to the next one. On each segment, the color is as far on the way from its
first color to its last one as the day is. A style sheet has it as six lower-case digits, three
bytes, each of them at most a half away from its channel.

**Proof sketch.** The parts are lemmas on paths of segments: all colors are between those of the
table (`gradient_mem`), two days differ by the steepest slope at most (`abs_gradient_sub_le`), and a
day within a segment has the color of that one (`gradient_of_mem`). The digits read back as three
bytes (`bytes?_toHex`), each of which is nearest to its channel (`Channel.abs_byte_sub_le`). -/
theorem gradient_isPath :
    (∀ (days : ℚ) (k : Component), 0 ≤ (gradient days).get k ∧ (gradient days).get k ≤ 255) ∧
    (∀ a b : ℚ, 0 ≤ a → 0 ≤ b → ∀ k : Component,
      |(gradient a).get k - (gradient b).get k| ≤ 160 / 7 * |a - b|) ∧
    (∀ s ∈ (segments : List (Segment ℚ)), ∀ days : ℚ, s.lower ≤ days → days < s.upper →
      ∀ k : Component, (gradient days).get k = s.start.get k +
        (s.target.get k - s.start.get k) * (days - s.lower) / (s.upper - s.lower)) ∧
    ∀ days : ℚ, ∃ (digits : List Char) (red green blue : ℕ),
      (gradient days).toHex = String.ofList ('#' :: digits) ∧ digits.length = 6 ∧
      (∀ d ∈ digits, Hex.IsLower d) ∧ Hex.bytes? digits = some [red, green, blue] ∧
      |(red : ℚ) - (gradient days).red| ≤ 1 / 2 ∧ |(green : ℚ) - (gradient days).green| ≤ 1 / 2 ∧
      |(blue : ℚ) - (gradient days).blue| ≤ 1 / 2 := by
  refine ⟨gradient_mem, fun a b ha hb => abs_gradient_sub_le ha hb,
    fun s hs days hlower hupper => gradient_of_mem hs hlower hupper, fun days => ?_⟩
  obtain ⟨digits, hhex, hlength, hdigits, hbytes⟩ := bytes?_toHex (gradient days)
  have hnearest (k : Component) : |((Channel.byte ((gradient days).get k)).toNat : ℚ) -
      (gradient days).get k| ≤ 1 / 2 :=
    Channel.abs_byte_sub_le (gradient_mem days k).1 (gradient_mem days k).2
  exact ⟨digits, _, _, _, hhex, hlength, hdigits, hbytes, hnearest .red, hnearest .green,
    hnearest .blue⟩

/-- From the second day to four weeks, and in the middle of the first segment. -/
theorem gradient_isPath_middle :
    (0 : ℚ) ≤ 2 ∧ (0 : ℚ) ≤ 28 ∧
    |(gradient (2 : ℚ)).get .red - (gradient (28 : ℚ)).get .red| ≤ 160 / 7 * |(2 : ℚ) - 28| ∧
    (gradient (5 : ℚ)).get .green = 53 + (126 - 53) * (5 - 3) / (7 - 3) := by
  have hmem : (⟨3, 7, Palette.red, Palette.orange⟩ : Segment ℚ) ∈ segments := List.mem_cons_self
  exact ⟨by norm_num, by norm_num,
    gradient_isPath.2.1 2 28 (by norm_num) (by norm_num) .red,
    gradient_isPath.2.2.1 _ hmem 5 (by norm_num) (by norm_num) .green⟩

end Rgb

end CertDashboard
