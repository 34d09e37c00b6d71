set_option autoImplicit false
set_option relaxedAutoImplicit false

/-!
# Whole numbers in decimal

Numbers are written with `Nat.toDigits 10`, that is, without leading zeros. Reading is wider:
leading zeros and one plus sign are accepted, and the number has to fit a bound.

## Main definitions

* `CertDashboard.Decimal.natural`, `CertDashboard.Decimal.integer` — a number as text.
* `CertDashboard.Decimal.read?` — the number that a run of digits denotes.
* `CertDashboard.Decimal.unsigned?` — a number at most a bound, as a setting gives it.

## Main results

* `CertDashboard.Decimal.read?_digits` — reading undoes writing.
-/

namespace CertDashboard

namespace Decimal

/-- The decimal digits of a number, most significant first. -/
def digits (n : Nat) : List Char :=
  Nat.toDigits 10 n

/-- **A natural number as text**: its decimal digits. -/
def natural (n : Nat) : String :=
  String.ofList (digits n)

/-- **An integer as text**: a minus sign, if it is negative, and the digits of its magnitude. -/
def integer (i : Int) : String :=
  if i < 0 then "-" ++ natural i.natAbs else natural i.natAbs

/-- The number that a non-empty run of decimal digits denotes. -/
def read? (cs : List Char) : Option Nat :=
  if cs ≠ [] ∧ cs.all Char.isDigit = true then some (Nat.ofDigitChars 10 cs 0) else none

/-- A leading plus sign is dropped, once. -/
def dropPlus : List Char → List Char
  | '+' :: rest => rest
  | cs => cs

/-- **An unsigned setting**: an optional plus sign and decimal digits, at most `bound`. -/
def unsigned? (bound : Nat) (s : String) : Option Nat :=
  match read? (dropPlus s.toList) with
  | some n => if n ≤ bound then some n else none
  | none => none

/-- The characters of a written number are its digits. -/
@[simp] theorem toList_natural (n : Nat) : (natural n).toList = digits n := by
  simp [natural]

/-- Every number has a digit. -/
theorem digits_ne_nil (n : Nat) : digits n ≠ [] := Nat.toDigits_ne_nil

/-- Every digit is one. -/
theorem isDigit_of_mem_digits {n : Nat} {c : Char} (h : c ∈ digits n) : c.isDigit = true :=
  Nat.isDigit_of_mem_toDigits (by decide) (by decide) h

/-- All characters of a written number are digits. -/
theorem all_isDigit_digits (n : Nat) : (digits n).all Char.isDigit = true :=
  List.all_eq_true.2 fun _ h => isDigit_of_mem_digits h

/-- The digits denote the number that they were written for. -/
theorem ofDigitChars_digits (n : Nat) : Nat.ofDigitChars 10 (digits n) 0 = n :=
  Nat.ofDigitChars_ten_toDigits

/-- Reading undoes writing. -/
theorem read?_digits (n : Nat) : read? (digits n) = some n := by
  rw [read?, if_pos ⟨digits_ne_nil n, all_isDigit_digits n⟩, ofDigitChars_digits]

/-- Digits carry no sign. -/
theorem dropPlus_of_digits {ds : List Char} (h : ∀ c ∈ ds, c.isDigit = true) :
    dropPlus ds = ds := by
  unfold dropPlus
  split
  · exact absurd (h '+' List.mem_cons_self) (by decide)
  · rfl

end Decimal

end CertDashboard
