import CertDashboard.Text.Decimal

set_option autoImplicit false
set_option relaxedAutoImplicit false

/-!
# The shortest decimal of a binary fraction

A double precision number stands for an interval of reals, those that round to it. Its text has
the fewest significant digits with which a decimal lies in that interval; of two such decimals the
nearer one is taken, and of two equally near the even one. All of this is exact arithmetic on
natural numbers.

## Main definitions

* `CertDashboard.Shortest.Binary` — a finite double as `± mantissa · 2 ^ exponent`.
* `CertDashboard.Shortest.Scaled` — a decimal as `digits · 10 ^ exponent`.
* `CertDashboard.Shortest.Binary.shortest` — the shortest decimal of a positive double.
* `CertDashboard.Shortest.Binary.render` — a finite double as text.

## Design

For each number of digits there are two candidates, the neighbours of the value on the decimal grid
of that many digits: if any point of the grid lies in the interval, so does one of them. Seventeen
digits always suffice.
-/

namespace CertDashboard

namespace Shortest

/-- **A finite double**, exactly: `± mantissa · 2 ^ exponent`. -/
structure Binary where
  /-- Whether the sign bit is set. -/
  negative : Bool
  /-- Integral significand. -/
  mantissa : Nat
  /-- Power of two. -/
  exponent : Int
  /-- Whether the double below is half as far away as the one above. -/
  atStep : Bool
  deriving DecidableEq, Repr

/-- The exact value of a double given by its bits; `none` for infinities and not-a-numbers. -/
def Binary.ofBits? (bits : UInt64) : Option Binary :=
  let n := bits.toNat
  let hidden : Nat := 0x10000000000000
  let negative := n / (0x800 * hidden) == 1
  let biased : Nat := n / hidden % 0x800
  let fraction : Nat := n % hidden
  if biased = 2047 then none
  else if biased = 0 then some ⟨negative, fraction, -1074, false⟩
  else some ⟨negative, hidden + fraction, (biased : Int) - 1075, fraction == 0 && biased != 1⟩

/-- **A decimal**: `digits · 10 ^ exponent`. -/
structure Scaled where
  /-- Significant digits as one number. -/
  digits : Nat
  /-- Power of ten. -/
  exponent : Int
  deriving DecidableEq, Repr

/-- `base ^ e` as a numerator and a denominator. -/
def power (base : Nat) (e : Int) : Nat × Nat :=
  (Nat.pow base e.toNat, Nat.pow base (-e).toNat)

/-- The bounds of the interval of a positive double, and the double itself between them, in
quarters of its last place. -/
def Binary.quarters (b : Binary) : Nat × Nat × Nat :=
  (4 * b.mantissa - (if b.atStep then 1 else 2), 4 * b.mantissa, 4 * b.mantissa + 2)

/-- The two sides of a comparison of `c · 10 ^ e` with a number of quarters of the last place
of `b`, brought to a common denominator. -/
def Binary.common (b : Binary) (e : Int) : Nat × Nat :=
  let two := power 2 (b.exponent - 2)
  let ten := power 10 e
  (ten.1 * two.2, two.1 * ten.2)

/-- Whether `c · 10 ^ e` rounds to `b`: inside the interval, or at an end of it when the mantissa
is even. -/
def Binary.isHit (b : Binary) (e : Int) (c : Nat) : Bool :=
  let (decimal, binary) := b.common e
  let (low, _, high) := b.quarters
  let x := c * decimal
  if b.mantissa % 2 = 0 then low * binary ≤ x && x ≤ high * binary
  else low * binary < x && x < high * binary

/-- The better one of the two neighbours of `b` on the grid of `10 ^ e` that round to `b`. -/
def Binary.neighbour? (b : Binary) (e : Int) : Option Nat :=
  let (decimal, binary) := b.common e
  let value := 4 * b.mantissa * binary
  let below := value / decimal
  match b.isHit e below, b.isHit e (below + 1) with
  | false, false => none
  | true, false => some below
  | false, true => some (below + 1)
  | true, true =>
    let down := value - below * decimal
    let up := (below + 1) * decimal - value
    if down < up ∨ (down = up ∧ below % 2 = 0) then some below else some (below + 1)

/-- The power of ten that bounds `b` from above: `10 ^ (p - 1) ≤ b < 10 ^ p`. -/
def Binary.decimalPoint (b : Binary) : Int :=
  let (decimal, binary) := b.common (-400)
  (Decimal.digits (4 * b.mantissa * binary / decimal)).length - 400

/-- **The shortest decimal** of a positive double: the first number of digits, from one to
seventeen, for which a decimal rounds to it. -/
def Binary.shortest (b : Binary) : Scaled :=
  let point := b.decimalPoint
  let grids : List Int := (List.range 17).map fun (n : Nat) => point - 1 - (n : Int)
  match grids.findSome? fun e => (b.neighbour? e).map fun c => Scaled.mk c e with
  | some s => if s.digits = 10 then ⟨1, s.exponent + 1⟩ else s
  | none => ⟨0, 0⟩

/-- The digits with the point at position `point` among or beside them, and at least one digit on
either side of it. -/
def positional (ds : List Char) (point : Int) : List Char :=
  if point ≤ 0 then ['0', '.'] ++ List.replicate (-point).toNat '0' ++ ds
  else
    let n := point.toNat
    if ds.length ≤ n then ds ++ List.replicate (n - ds.length) '0' ++ ['.', '0']
    else ds.take n ++ ['.'] ++ ds.drop n

/-- The digits with the point after the first one, unless it stands alone, and an exponent with its
sign. -/
def scientific (ds : List Char) (point : Int) : List Char :=
  let mantissa := match ds with
    | [d] => [d]
    | d :: rest => d :: '.' :: rest
    | [] => []
  let sign := if 0 < point - 1 then ['+'] else []
  mantissa ++ ['e'] ++ sign ++ (Decimal.integer (point - 1)).toList

/-- Whether a decimal is written without an exponent: from `0.00001` on, and below `10 ^ 16`. -/
def isPositional (point : Int) : Bool :=
  decide (-4 ≤ point) && decide (point ≤ 16)

/-- **A finite double as text**: a sign, the shortest digits and the point, and an exponent if the
number is very small or very large. -/
def Binary.render (b : Binary) : List Char :=
  let sign := if b.negative then ['-'] else []
  if b.mantissa = 0 then sign ++ ['0', '.', '0']
  else
    let s := b.shortest
    let ds := Decimal.digits s.digits
    let point := s.exponent + ds.length
    sign ++ (if isPositional point then positional ds point else scientific ds point)

end Shortest

end CertDashboard
