import CertDashboard.Text.Decimal

set_option autoImplicit false
set_option relaxedAutoImplicit false

/-!
# Headers for a number of days

## Main definitions

* `CertDashboard.Expiry.counted` — a number and its unit, in the singular or the plural.
* `CertDashboard.Expiry.label` — the header of the certificates with so many days left.
-/

namespace CertDashboard

namespace Expiry

/-- A number and its unit, with an `S` unless the number is one. -/
def counted (n : Nat) (unit : String) : String :=
  Decimal.natural n ++ " " ++ unit ++ (if n = 1 then "" else "S")

/-- **The header of a number of days**: from a week on, weeks and the days beyond them. -/
def label (days : Int) : String :=
  if days < 0 then "THE DAWN OF TIME"
  else if days = 0 then "NOW"
  else
    let weeks := days.toNat / 7
    let rest := days.toNat % 7
    if weeks = 0 then counted rest "DAY"
    else if rest = 0 then counted weeks "WEEK"
    else counted weeks "WEEK" ++ ", " ++ counted rest "DAY"

end Expiry

end CertDashboard
