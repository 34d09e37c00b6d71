import CertDashboard.Text.Shortest
import Mathlib

set_option autoImplicit false
set_option relaxedAutoImplicit false

/-!
# Whole numbers as doubles

The significand of a double has 53 bits, and so a whole number of no more bits is a double: nothing
of it is lost when it is made one.

## Main definitions

* `CertDashboard.Shortest.Binary.value` — the number that a finite double is.
* `CertDashboard.Shortest.IsValue` — a double is a number, exactly.
* `CertDashboard.Shortest.IsNormal` — a significand of 53 bits, and an exponent that there is room
  for.
* `CertDashboard.Shortest.wholeNumber` — a whole number as a significand and an exponent.

## Main results

* `CertDashboard.Shortest.roundWithAccuracy_of_isNormal` — nothing is rounded where 53 bits suffice.
* `CertDashboard.Shortest.ofNat_eq` — the double that is made of a positive number.
* `CertDashboard.Shortest.isValue_ofInt` — a whole number of 53 bits is the double made of it.

## Design

A double is made of a natural number in two steps, a conversion of a word and a multiplication by
one. Both of them end in a shift of the significand to 53 bits. The shift drops zeros only.
-/

namespace CertDashboard

namespace Shortest

open Float.Model (Format totalExponent)
open Float.Model.UnpackedFloat

/-- **The number that a finite double is.** -/
def Binary.value (b : Binary) : ℚ :=
  (if b.negative then -1 else 1) * b.mantissa * 2 ^ b.exponent

/-- **A double is a number**, exactly. -/
def IsValue (x : Float) (q : ℚ) : Prop :=
  ∃ b, Binary.ofBits? x.toBits = some b ∧ b.value = q

/-- **A normal double**: a significand of 53 bits, and an exponent that there is room for. -/
structure IsNormal (mantissa : Nat) (exponent : Int) : Prop where
  /-- The highest bit is set. -/
  le_mantissa : 2 ^ 52 ≤ mantissa
  /-- There is no bit above it. -/
  mantissa_lt : mantissa < 2 ^ 53
  /-- The exponent is not too small. -/
  le_exponent : -1074 ≤ exponent
  /-- The exponent is not too large. -/
  exponent_le : exponent ≤ 971

namespace IsNormal

variable {m : Nat} {e : Int}

/-- The significand is not zero. -/
theorem pos (h : IsNormal m e) : 0 < m :=
  Nat.lt_of_lt_of_le (by decide) h.le_mantissa

/-- The significand with zeros behind it. -/
theorem log2_mul (h : IsNormal m e) (zeros : Nat) : (m * 2 ^ zeros).log2 = 52 + zeros := by
  have hpos : m * 2 ^ zeros ≠ 0 := Nat.mul_ne_zero h.pos.ne' (by positivity)
  refine (Nat.log2_eq_iff hpos).mpr ⟨?_, ?_⟩
  · rw [Nat.pow_add]
    exact Nat.mul_le_mul_right _ h.le_mantissa
  · rw [show 52 + zeros + 1 = 53 + zeros by omega, Nat.pow_add]
    exact Nat.mul_lt_mul_of_pos_right h.mantissa_lt (by positivity)

end IsNormal

/-! ## Rounding -/

/-- A shift drops zeros without a trace. -/
theorem shiftRight_zeros (m zeros : Nat) :
    ExtendedMantissa.mk (m * 2 ^ zeros) false false >>> zeros = ⟨m, false, false⟩ := by
  induction zeros generalizing m with
  | zero => simp [HShiftRight.hShiftRight, Nat.repeat]
  | succ zeros ih =>
    have hstep : ExtendedMantissa.mk (m * 2 ^ (zeros + 1)) false false >>> (zeros + 1) =
        (ExtendedMantissa.mk (m * 2 * 2 ^ zeros) false false >>> zeros).shiftRightOne := by
      rw [show m * 2 ^ (zeros + 1) = m * 2 * 2 ^ zeros by ring]
      rfl
    rw [hstep, ih]
    simp [ExtendedMantissa.shiftRightOne]

/-- The significand of a normal double with zeros behind it is shifted to what it is without
them. -/
theorem shiftToTargetExponent_of_isNormal {m : Nat} {e : Int} (h : IsNormal m e) (zeros : Nat) :
    shiftToTargetExponent .binary64 (m * 2 ^ zeros) (e - zeros) .exact =
      (⟨m, false, false⟩, e) := by
  have htarget :
      Format.binary64.targetExponent (totalExponent (m * 2 ^ zeros) (e - zeros)) = e := by
    have hle := h.le_exponent
    simp only [Format.targetExponent, totalExponent, h.log2_mul, Format.mantissaBits,
      Format.minExponent]
    omega
  have hshift : (e - (e - zeros)).toNat = zeros := by omega
  rw [shiftToTargetExponent, htarget, shiftToExponent, hshift]
  simp only [ExtendedMantissa.ofMantissaAndAccuracy, shiftRight_zeros]
  rw [show e - zeros + zeros = e by omega]

/-- **Nothing is rounded where 53 bits suffice.** -/
theorem roundWithAccuracy_of_isNormal {m : Nat} {e : Int} (h : IsNormal m e) (s : Sign)
    (zeros : Nat) :
    roundWithAccuracy .binary64 s (m * 2 ^ zeros) (e - zeros) .exact = .finite s m e h.pos := by
  have hagain : shiftToTargetExponent .binary64 m e .exact = (⟨m, false, false⟩, e) := by
    simpa using shiftToTargetExponent_of_isNormal h 0
  have hrounded : (ExtendedMantissa.mk m false false).roundedMantissa = m := rfl
  rw [roundWithAccuracy, shiftToTargetExponent_of_isNormal h]
  simp only [hrounded, hagain, h.pos.ne', dite_false]

/-! ## Bits -/

/-- The bits of a double as one number. -/
theorem toNat_packComponents (s : Sign) (e : BitVec 11) (m : BitVec 52) :
    (packComponents .binary64 s e m).toNat =
      (s.toBitVec.toNat * 2 ^ 11 + e.toNat) * 2 ^ 52 + m.toNat := by
  rw [packComponents, BitVec.toNat_append, ← Nat.shiftLeft_add_eq_or_of_lt m.isLt,
    BitVec.toNat_append, ← Nat.shiftLeft_add_eq_or_of_lt e.isLt, Nat.shiftLeft_eq, Nat.shiftLeft_eq]

/-- A significand and its highest bit.

**Proof sketch.** The two tests of `pack` are decided by the bounds: the significand has all its
bits, so that it is not a small double, and the biased exponent is below the one of an infinity. -/
theorem pack_of_isNormal {m : Nat} {e : Int} (h : IsNormal m e) (s : Sign) :
    pack .binary64 (.finite s m e h.pos) =
      packComponents .binary64 s (BitVec.ofNat 11 (e + 1075).toNat) (BitVec.ofNat 52 m) := by
  have hle := h.le_exponent
  have hge := h.exponent_le
  have hlog : m.log2 + 1 = Format.binary64.mantissaBits := by
    have hlog := h.log2_mul 0
    rw [Nat.pow_zero, Nat.mul_one] at hlog
    rw [hlog]
    rfl
  have hbiased : (e + Format.binary64.exponentBias +
      Format.binary64.mantissaBitsWithoutImplicit).toNat = (e + 1075).toNat := by
    rw [show (Format.binary64.exponentBias : Int) = 1023 from rfl]
    simp only
    omega
  have hfits : ¬ 2 ^ Format.binary64.exponentBits ≤ (e + 1075).toNat + 1 := by
    simp only
    omega
  unfold pack
  simp only [hbiased, if_neg hfits, if_pos hlog]

/-- The parts of a normal double are found again in its bits.

**Proof sketch.** The fields of the bits are the biased exponent and the significand without its
highest bit (`pack_of_isNormal`). By the bounds the exponent is neither of the two that are
reserved, so `unpack` puts the highest bit back and takes the bias off. -/
theorem unpack_pack_of_isNormal {m : Nat} {e : Int} (h : IsNormal m e) (s : Sign) :
    unpack .binary64 (pack .binary64 (.finite s m e h.pos)) = .finite s m e h.pos := by
  have ⟨hlow, hhigh, hle, hge⟩ := h
  have hexponent : (BitVec.ofNat 11 (e + 1075).toNat).toNat = (e + 1075).toNat := by
    rw [BitVec.toNat_ofNat]
    omega
  -- Neither all bits of the exponent are set, as in an infinity, nor none, as in a small double.
  have hother (reserved : BitVec 11) (h : (e + 1075).toNat ≠ reserved.toNat) :
      BitVec.ofNat 11 (e + 1075).toNat ≠ reserved :=
    fun heq => h (hexponent.symm.trans (congrArg BitVec.toNat heq))
  have hones : BitVec.ofNat 11 (e + 1075).toNat ≠ -1#11 :=
    hother _ (by rw [show (-1#11).toNat = 2047 from rfl]; omega)
  have hzero : BitVec.ofNat 11 (e + 1075).toNat ≠ 0#11 :=
    hother _ (by rw [show (0#11).toNat = 0 from rfl]; omega)
  have hmantissa : (1#1 ++ BitVec.ofNat 52 m).toNat = m := by
    rw [BitVec.toNat_append, ← Nat.shiftLeft_add_eq_or_of_lt (BitVec.isLt _), BitVec.toNat_ofNat,
      Nat.shiftLeft_eq]
    simp only [BitVec.toNat_ofNat]
    omega
  rw [pack_of_isNormal h, unpack]
  simp only [unpackMantissa_packComponents, unpackExponent_packComponents,
    unpackSign_packComponents, Sign.ofBitVec_toBitVec, if_neg hones, if_neg hzero, hmantissa,
    hexponent]
  congr 1
  rw [show (Format.binary64.exponentBias : Int) = 1023 from rfl]
  omega

/-- Whether a sign is a minus. -/
def isNegative : Sign → Bool
  | .negative => true
  | .positive => false

/-- The parts of a normal double are read from its bits. -/
theorem ofBits?_eq {bits : UInt64} {negative : Bool} {biased fraction : Nat}
    (hbits : bits.toNat = (negative.toNat * 2 ^ 11 + biased) * 2 ^ 52 + fraction)
    (hfraction : fraction < 2 ^ 52) (hpos : 0 < biased) (hlt : biased < 2047) :
    ∃ atStep, Binary.ofBits? bits =
      some ⟨negative, 2 ^ 52 + fraction, (biased : Int) - 1075, atStep⟩ := by
  have hsign : (bits.toNat / (0x800 * 0x10000000000000) == 1) = negative := by
    have hnat : bits.toNat / (0x800 * 0x10000000000000) = negative.toNat := by omega
    rw [hnat]
    cases negative <;> rfl
  have hmiddle : bits.toNat / 0x10000000000000 % 0x800 = biased := by omega
  have hend : bits.toNat % 0x10000000000000 = fraction := by omega
  refine ⟨fraction == 0 && biased != 1, ?_⟩
  simp only [Binary.ofBits?, hsign, hmiddle, hend, if_neg hlt.ne, if_neg hpos.ne']
  rfl

/-- **The number that a normal double is.**

**Proof sketch.** The bits as a number are sign, exponent and significand, one behind the other
(`pack_of_isNormal`, `toNat_packComponents`). The reader of such numbers (`ofBits?_eq`) gives the
same significand and exponent, whose value is the stated one for either sign. -/
theorem isValue_pack {m : Nat} {e : Int} (h : IsNormal m e) (s : Sign) :
    IsValue ⟨.pack (.finite s m e h.pos)⟩ ((s.apply m : Int) * 2 ^ e) := by
  have ⟨hlow, hhigh, hle, hge⟩ := h
  have hsign : s.toBitVec.toNat = (isNegative s).toNat := by
    cases s <;> rfl
  have hbits : (Float.toBits ⟨.pack (.finite s m e h.pos)⟩).toNat =
      ((isNegative s).toNat * 2 ^ 11 + (e + 1075).toNat) * 2 ^ 52 + (m - 2 ^ 52) := by
    show (pack .binary64 _).toNat = _
    rw [pack_of_isNormal h, toNat_packComponents, BitVec.toNat_ofNat, BitVec.toNat_ofNat, hsign]
    omega
  obtain ⟨atStep, hread⟩ := ofBits?_eq hbits (by omega) (by omega) (by omega)
  rw [show 2 ^ 52 + (m - 2 ^ 52) = m by omega,
    show ((e + 1075).toNat : Int) - 1075 = e by omega] at hread
  refine ⟨_, hread, ?_⟩
  cases s <;> simp [Binary.value, isNegative, Sign.apply]

/-! ## Whole numbers -/

/-- **A whole number with a sign**, its highest bit at the top of a significand. -/
def wholeNumber (s : Sign) (n : Nat) (hpos : 0 < n) : Float.Model.UnpackedFloat :=
  .finite s (n <<< (52 - n.log2)) ((n.log2 : Int) - 52) (Nat.shiftLeft_pos_iff.mpr hpos)

section WholeNumbers

variable {n : Nat} (hpos : 0 < n) (hlt : n < 2 ^ 53)
include hpos hlt

/-- A whole number of 53 bits is a normal double. -/
theorem isNormal_shiftLeft : IsNormal (n <<< (52 - n.log2)) ((n.log2 : Int) - 52) := by
  have hlog : n.log2 < 53 := (Nat.log2_lt hpos.ne').mpr hlt
  have hself := Nat.log2_self_le hpos.ne'
  have hnext : n < 2 ^ (n.log2 + 1) := Nat.lt_log2_self
  rw [Nat.shiftLeft_eq]
  refine ⟨?_, ?_, by omega, by omega⟩
  · calc 2 ^ 52 = 2 ^ n.log2 * 2 ^ (52 - n.log2) := by
          rw [← Nat.pow_add, show n.log2 + (52 - n.log2) = 52 by omega]
      _ ≤ n * 2 ^ (52 - n.log2) := Nat.mul_le_mul_right _ hself
  · calc n * 2 ^ (52 - n.log2) < 2 ^ (n.log2 + 1) * 2 ^ (52 - n.log2) :=
          Nat.mul_lt_mul_of_pos_right hnext (by positivity)
      _ = 2 ^ 53 := by rw [← Nat.pow_add, show n.log2 + 1 + (52 - n.log2) = 53 by omega]

/-- **The number that it is.**

**Proof sketch.** The significand of `n` is `n`, shifted up until its highest bit is the 53rd, and
the exponent takes the shift back. So the value of the double (`isValue_pack`) is `n`, with its
sign. -/
theorem isValue_wholeNumber (s : Sign) :
    IsValue ⟨.pack (wholeNumber s n hpos)⟩ (s.apply n : Int) := by
  have hlog : n.log2 < 53 := (Nat.log2_lt hpos.ne').mpr hlt
  have hexponent : (n.log2 : Int) - 52 = -((52 - n.log2 : Nat) : Int) := by omega
  have hvalue : ((n <<< (52 - n.log2) : Nat) : ℚ) * 2 ^ ((n.log2 : Int) - 52) = n := by
    rw [Nat.shiftLeft_eq, hexponent, zpow_neg, zpow_natCast]
    push_cast
    exact mul_inv_cancel_right₀ (by positivity) _
  have hsigned : ((s.apply (n <<< (52 - n.log2) : Nat) : Int) : ℚ) * 2 ^ ((n.log2 : Int) - 52) =
      (s.apply n : Int) := by
    cases s with
    | positive => exact_mod_cast hvalue
    | negative => simp only [Sign.apply, Int.cast_neg, Int.cast_natCast, neg_mul, hvalue]
  rw [← hsigned]
  exact isValue_pack (isNormal_shiftLeft hpos hlt) s

/-- Its parts are found again in its bits. -/
theorem unpack_pack_wholeNumber (s : Sign) :
    unpack .binary64 (pack .binary64 (wholeNumber s n hpos)) = wholeNumber s n hpos :=
  unpack_pack_of_isNormal (isNormal_shiftLeft hpos hlt) s

/-- A word of 53 bits is converted without rounding.

**Proof sketch.** The conversion normalizes and rounds. The exponent it aims at is the one that
leaves 53 bits, so the significand is only shifted up, and rounding a normal double changes nothing
(`roundWithAccuracy_of_isNormal`). -/
theorem ofUInt64_eq : ofUInt64 .binary64 n.toUInt64 = wholeNumber .positive n hpos := by
  have hword : n.toUInt64.toNat = n := UInt64.toNat_ofNat_of_lt' (by
    rw [UInt64.size]
    omega)
  have hcompare : compare (n : Int) 0 = .gt := Int.compare_eq_gt.mpr (by omega)
  have hlog : n.log2 < 53 := (Nat.log2_lt hpos.ne').mpr hlt
  have htarget : Format.binary64.targetExponent (totalExponent n 0) = (n.log2 : Int) - 52 := by
    simp only [Format.targetExponent, totalExponent, Format.mantissaBits, Format.minExponent]
    omega
  have hshift : (0 - ((n.log2 : Int) - 52)).toNat = 52 - n.log2 := by omega
  have hround := roundWithAccuracy_of_isNormal (isNormal_shiftLeft hpos hlt) .positive 0
  simp only [Nat.pow_zero, Nat.mul_one, Nat.cast_zero, sub_zero] at hround
  rw [ofUInt64, ofNat, hword, ofInt, Float.Model.UnpackedFloat.normalize]
  simp only [hcompare, Float.Model.UnpackedFloat.round, Int.toNat_natCast, htarget,
    decreaseExponent, hshift]
  rw [show 0 - ((52 - n.log2 : Nat) : Int) = (n.log2 : Int) - 52 by omega]
  exact hround

/-- **The double that is made of a natural number**: the word of it, multiplied by one.

**Proof sketch.** For so small a number `Float.ofScientific` is a product of two doubles, that of
the word (`ofUInt64_eq`) and one. The product has the significand shifted up by 52 bits, and
rounding shifts it back without a loss. -/
theorem ofNat_eq : Float.ofNat n = ⟨.pack (wholeNumber .positive n hpos)⟩ := by
  have hmade : Float.ofNat n = n.toUInt64.toFloat * Float.ofBits 0x3FF0000000000000 := by
    show Float.ofScientific n false 0 = _
    rw [Float.ofScientific, dif_pos ⟨hlt, by decide⟩]
    rfl
  have hword : n.toUInt64.toFloat.toModel.unpack = wholeNumber .positive n hpos := by
    show unpack .binary64 (pack .binary64 (ofUInt64 .binary64 n.toUInt64)) = _
    rw [ofUInt64_eq hpos hlt, unpack_pack_wholeNumber hpos hlt]
  have hone : (Float.ofBits 0x3FF0000000000000).toModel.unpack =
      .finite .positive (2 ^ 52) (-52) (by decide) := rfl
  have hround := roundWithAccuracy_of_isNormal (isNormal_shiftLeft hpos hlt) .positive 52
  rw [hmade]
  show Float.ofModel (.pack (mul .binary64 n.toUInt64.toFloat.toModel.unpack
    (Float.ofBits 0x3FF0000000000000).toModel.unpack)) = _
  rw [hword, hone]
  exact congrArg (fun u => Float.ofModel (.pack u)) hround

end WholeNumbers

/-- **A whole number of 53 bits is the double made of it.**

**Proof sketch.** By the cases of `Float.ofInt`. Zero is read off its bits. A positive integer is
made as a natural number (`ofNat_eq`), and a negative one is the negation of such a double, which
only changes the sign. -/
theorem isValue_ofInt {i : Int} (h : i.natAbs < 2 ^ 53) : IsValue (Float.ofInt i) i := by
  match i, h with
  | .ofNat 0, _ => exact ⟨⟨false, 0, -1074, false⟩, rfl, by simp [Binary.value]⟩
  | .ofNat (n + 1), h =>
    show IsValue (Float.ofNat (n + 1)) _
    rw [ofNat_eq n.succ_pos h]
    exact isValue_wholeNumber n.succ_pos h .positive
  | .negSucc n, h =>
    have hneg : Float.neg (Float.ofNat (n + 1)) =
        ⟨.pack (wholeNumber .negative (n + 1) n.succ_pos)⟩ := by
      rw [ofNat_eq n.succ_pos h]
      exact congrArg (fun u => Float.ofModel (.pack u.neg))
        (unpack_pack_wholeNumber n.succ_pos h .positive)
    show IsValue (Float.neg (Float.ofNat (n + 1))) _
    rw [hneg]
    exact isValue_wholeNumber n.succ_pos h .negative

end Shortest

end CertDashboard
