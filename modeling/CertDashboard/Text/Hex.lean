set_option autoImplicit false
set_option relaxedAutoImplicit false

/-!
# Hexadecimal digits

## Main definitions

* `CertDashboard.Hex.digit`, `CertDashboard.Hex.capital` — the lower-case and the upper-case digit
  of a number below sixteen.
* `CertDashboard.Hex.value?` — the number that a digit of either case denotes.
* `CertDashboard.Hex.byte` — a byte as two lower-case digits.
* `CertDashboard.Hex.number` — a number as lower-case digits without leading zeros.

## Main results

* `CertDashboard.Hex.value?_digit` — reading undoes writing.
-/

namespace CertDashboard

namespace Hex

/-- The lower-case digit of a number below sixteen. -/
def digit (n : Nat) : Char :=
  Nat.digitChar (n % 16)

/-- The upper-case digit of a number below sixteen. -/
def capital (n : Nat) : Char :=
  (digit n).toUpper

/-- The number that a hexadecimal digit of either case denotes. -/
def value? (c : Char) : Option Nat :=
  if '0' ≤ c ∧ c ≤ '9' then some (c.toNat - '0'.toNat)
  else if 'a' ≤ c ∧ c ≤ 'f' then some (c.toNat - 'a'.toNat + 10)
  else if 'A' ≤ c ∧ c ≤ 'F' then some (c.toNat - 'A'.toNat + 10)
  else none

/-- **A byte** as two lower-case digits. -/
def byte (b : UInt8) : List Char :=
  [digit (b.toNat / 16), digit b.toNat]

/-- **A number** as lower-case hexadecimal digits without leading zeros. -/
def number (n : Nat) : List Char :=
  Nat.toDigits 16 n

/-- Reading a digit undoes writing it. -/
theorem value?_digit (n : Nat) : value? (digit n) = some (n % 16) := by
  have h : ∀ m < 16, value? (Nat.digitChar m) = some m := by decide
  exact h _ (Nat.mod_lt _ (by decide))

end Hex

end CertDashboard
