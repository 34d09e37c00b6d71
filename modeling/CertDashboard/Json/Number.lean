import CertDashboard.Text.Shortest

set_option autoImplicit false
set_option relaxedAutoImplicit false

/-!
# Number literals

A number of a JSON text is kept as it is written; what it denotes is a second question. An integer
literal that fits 64 bits denotes an integer, every other literal a double.

## Main definitions

* `CertDashboard.Json.Digits` — a non-empty run of decimal digits.
* `CertDashboard.Json.Number` — a number literal, and `Number.render`, its text.
* `CertDashboard.Json.Number.ofInt` — the literal of an integer.
* `CertDashboard.Json.Number.scan?` — the longest literal at the start of a text.
* `CertDashboard.Json.Number.quantity?` — what a literal denotes, if it is not too large.

## Main results

* `CertDashboard.Json.Number.length_scan?` — scanning uses up some of the text.

## Design

The double that a literal denotes is not always the nearest one. The digits that fit an unsigned
64-bit number form a significand, and one multiplication or division scales it by a power of ten;
only beyond `10 ^ 308` are there more of them.
-/

namespace CertDashboard

namespace Json

/-- **A run of digits**: at least one decimal digit. -/
structure Digits where
  /-- Digits, most significant first. -/
  chars : List Char
  /-- There is a digit. -/
  ne_nil : chars ≠ []
  /-- Every character is a digit. -/
  all_isDigit : chars.all Char.isDigit = true
  deriving DecidableEq

namespace Digits

/-- The number that a run of digits denotes. -/
def value (ds : Digits) : Nat :=
  Nat.ofDigitChars 10 ds.chars 0

/-- The canonical digits of a number. -/
def ofNat (n : Nat) : Digits :=
  ⟨Decimal.digits n, Decimal.digits_ne_nil n, Decimal.all_isDigit_digits n⟩

/-- The digits made of a number have its value. -/
@[simp] theorem value_ofNat (n : Nat) : (ofNat n).value = n :=
  Decimal.ofDigitChars_digits n

/-- What `takeWhile` keeps has the property. -/
theorem all_takeWhile (p : Char → Bool) (cs : List Char) : (cs.takeWhile p).all p = true := by
  induction cs with
  | nil => rfl
  | cons c cs ih =>
    by_cases h : p c = true
    · simp only [List.takeWhile_cons, h, if_true, List.all_cons, Bool.true_and, ih]
    · simp [h]

/-- The longest run of digits at the start of a text, and what follows it. -/
def scan? (cs : List Char) : Option (Digits × List Char) :=
  if h : cs.takeWhile Char.isDigit ≠ [] then
    some (⟨cs.takeWhile Char.isDigit, h, all_takeWhile _ cs⟩, cs.dropWhile Char.isDigit)
  else none

/-- A scanned run and what follows it are the text. -/
theorem append_of_scan? {cs rest : List Char} {ds : Digits} (h : scan? cs = some (ds, rest)) :
    ds.chars ++ rest = cs := by
  unfold scan? at h
  split at h
  · simp only [Option.some.injEq, Prod.mk.injEq] at h
    obtain ⟨rfl, rfl⟩ := h
    exact List.takeWhile_append_dropWhile
  · simp at h

/-- A scanned run uses up some of the text. -/
theorem length_of_scan? {cs rest : List Char} {ds : Digits} (h : scan? cs = some (ds, rest)) :
    rest.length < cs.length := by
  have happ := congrArg List.length (append_of_scan? h)
  have hpos := List.length_pos_iff.2 ds.ne_nil
  simp only [List.length_append] at happ
  omega

end Digits

/-- **An exponent**, as written. -/
structure Exponent where
  /-- Whether the letter is `E`. -/
  capital : Bool
  /-- The sign, if there is one: `true` for minus. -/
  sign : Option Bool
  /-- Digits, possibly with leading zeros. -/
  digits : Digits
  deriving DecidableEq

/-- The text of an exponent. -/
def Exponent.render (e : Exponent) : List Char :=
  (if e.capital then 'E' else 'e') ::
    ((match e.sign with
      | none => []
      | some true => ['-']
      | some false => ['+']) ++ e.digits.chars)

/-- The power of ten that an exponent denotes. -/
def Exponent.value (e : Exponent) : Int :=
  if e.sign = some true then -(e.digits.value : Int) else e.digits.value

/-- **A number literal**, as written. A whole part of several digits starts with no zero. -/
structure Number where
  /-- Whether there is a minus sign. -/
  negative : Bool
  /-- Digits before the point. -/
  whole : Digits
  /-- Digits after the point, if there is one. -/
  fraction : Option Digits
  /-- Exponent, if there is one. -/
  exponent : Option Exponent
  /-- Zero stands alone. -/
  canonical : whole.chars.head? = some '0' → whole.chars = ['0']
  deriving DecidableEq

namespace Number

/-- **The text of a literal.** -/
def render (n : Number) : List Char :=
  (if n.negative then ['-'] else []) ++ n.whole.chars ++
    (match n.fraction with
      | none => []
      | some ds => '.' :: ds.chars) ++
    (match n.exponent with
      | none => []
      | some e => e.render)

/-- A decimal numeral that starts with a zero is zero.

**Proof sketch.** Strong induction on the number. Of one digit there are ten cases. A longer numeral
starts with the first digit of its tenth part, which by induction is the numeral of zero; but a
tenth part of zero means that there was one digit only. -/
theorem digits_canonical (n : Nat) (h : (Decimal.digits n).head? = some '0') :
    Decimal.digits n = ['0'] := by
  induction n using Nat.strongRecOn with
  | _ n ih =>
    by_cases hlt : n < 10
    · have hall : ∀ m < 10, (Decimal.digits m).head? = some '0' → Decimal.digits m = ['0'] := by
        decide
      exact hall n hlt h
    · exfalso
      have hge : 10 ≤ n := Nat.le_of_not_lt hlt
      have hstep : Decimal.digits n = Decimal.digits (n / 10) ++ [(n % 10).digitChar] :=
        Nat.toDigits_of_base_le (by decide) hge
      have hhead : (Decimal.digits (n / 10)).head? = some '0' := by
        rw [hstep] at h
        cases hd : Decimal.digits (n / 10) with
        | nil => exact absurd hd (Decimal.digits_ne_nil _)
        | cons c rest => simpa [hd] using h
      have hzero := ih (n / 10) (Nat.div_lt_self (by omega) (by decide)) hhead
      have hval := Decimal.ofDigitChars_digits (n / 10)
      rw [hzero] at hval
      have : n / 10 = 0 := by rw [← hval]; decide
      omega

/-- **The literal of an integer**: a minus sign, if it is negative, and its digits. -/
def ofInt (i : Int) : Number :=
  ⟨decide (i < 0), Digits.ofNat i.natAbs, none, none, digits_canonical i.natAbs⟩

/-- A sign at the start of an exponent. -/
def scanSign : List Char → Option Bool × List Char
  | '-' :: rest => (some true, rest)
  | '+' :: rest => (some false, rest)
  | cs => (none, cs)

/-- An optional fraction at the start of a text; a point without a digit is refused. -/
def scanFraction? : List Char → Option (Option Digits × List Char)
  | '.' :: rest => (Digits.scan? rest).map fun (ds, rest) => (some ds, rest)
  | cs => some (none, cs)

/-- An optional exponent at the start of a text; a letter without a digit is refused. -/
def scanExponent? : List Char → Option (Option Exponent × List Char)
  | c :: rest =>
    if c = 'e' ∨ c = 'E' then
      (Digits.scan? (scanSign rest).2).map fun (ds, tail) =>
        (some ⟨decide (c = 'E'), (scanSign rest).1, ds⟩, tail)
    else some (none, c :: rest)
  | [] => some (none, [])

/-- An optional minus sign at the start of a text. -/
def scanMinus : List Char → Bool × List Char
  | '-' :: rest => (true, rest)
  | cs => (false, cs)

/-- **The longest literal** at the start of a text, and what follows it. -/
def scan? (cs : List Char) : Option (Number × List Char) := do
  let (whole, rest) ← Digits.scan? (scanMinus cs).2
  if canonical : whole.chars.head? = some '0' → whole.chars = ['0'] then
    let (fraction, rest) ← scanFraction? rest
    let (exponent, rest) ← scanExponent? rest
    some (⟨(scanMinus cs).1, whole, fraction, exponent, canonical⟩, rest)
  else none

/-- Reading a minus sign adds no characters. -/
theorem length_scanMinus (cs : List Char) : (scanMinus cs).2.length ≤ cs.length := by
  unfold scanMinus
  split <;> simp

/-- Reading the sign of an exponent adds no characters. -/
theorem length_scanSign (cs : List Char) : (scanSign cs).2.length ≤ cs.length := by
  unfold scanSign
  split <;> simp

/-- Reading a fraction adds no characters. -/
theorem length_scanFraction? {cs rest : List Char} {f : Option Digits}
    (h : scanFraction? cs = some (f, rest)) : rest.length ≤ cs.length := by
  unfold scanFraction? at h
  split at h
  · next tail =>
    obtain ⟨⟨ds, r⟩, hs, heq⟩ := Option.map_eq_some_iff.1 h
    have := Digits.length_of_scan? hs
    simp only [Prod.mk.injEq] at heq
    simp only [← heq.2, List.length_cons]
    omega
  · simp_all

/-- Reading an exponent adds no characters. -/
theorem length_scanExponent? {cs rest : List Char} {e : Option Exponent}
    (h : scanExponent? cs = some (e, rest)) : rest.length ≤ cs.length := by
  unfold scanExponent? at h
  split at h
  · next c tail =>
    split at h
    · obtain ⟨⟨ds, r⟩, hs, heq⟩ := Option.map_eq_some_iff.1 h
      have := Digits.length_of_scan? hs
      have := length_scanSign tail
      simp only [Prod.mk.injEq] at heq
      simp only [← heq.2, List.length_cons]
      omega
    · simp_all
  · simp_all

/-- Scanning a literal uses up some of the text.

**Proof sketch.** The whole part has at least one digit (`Digits.length_of_scan?`), and neither the
sign before it nor the fraction and the exponent behind it give text back. -/
theorem length_scan? {cs rest : List Char} {n : Number} (h : scan? cs = some (n, rest)) :
    rest.length < cs.length := by
  simp only [scan?, Option.bind_eq_bind, Option.bind_eq_some_iff] at h
  obtain ⟨⟨whole, r₁⟩, h₁, h⟩ := h
  split at h
  · simp only [Option.bind_eq_some_iff] at h
    obtain ⟨⟨f, r₂⟩, h₂, ⟨e, r₃⟩, h₃, h⟩ := h
    simp only [Option.some.injEq, Prod.mk.injEq] at h
    have := length_scanMinus cs
    have hwhole : r₁.length < _ := Digits.length_of_scan? h₁
    have hfraction : r₂.length ≤ r₁.length := length_scanFraction? h₂
    have hexponent : r₃.length ≤ r₂.length := length_scanExponent? h₃
    rw [← h.2]
    omega
  · simp at h

/-- **What a literal denotes.** -/
inductive Quantity where
  /-- An integer of 64 bits: at least the least signed, at most the greatest unsigned one. -/
  | integer (i : Int)
  /-- A double. -/
  | real (x : Float)

/-- The greatest unsigned number of 64 bits. -/
def greatest : Nat := UInt64.size - 1

/-- The significand so far and the power of ten so far, after one more digit before the point.
Once a digit does not fit, it and all that follow it before the point count as powers of ten. -/
def takeWhole : Nat → List Char → Nat × Int
  | m, [] => (m, 0)
  | m, c :: rest =>
    let m' := m * 10 + (c.toNat - '0'.toNat)
    if m' ≤ greatest then takeWhole m' rest else (m, (c :: rest).length)

/-- The same after the point, where every digit that fits lowers the power of ten and the others
are left out. -/
def takeFraction : Nat → Int → List Char → Nat × Int
  | m, e, [] => (m, e)
  | m, e, c :: rest =>
    let m' := m * 10 + (c.toNat - '0'.toNat)
    if m' ≤ greatest then takeFraction m' (e - 1) rest else (m, e)

/-- The significand of a literal and the power of ten that scales it. -/
def significand (n : Number) : Nat × Int :=
  let (m, e) := takeWhole 0 n.whole.chars
  let (m, e) := match n.fraction with
    | none => (m, e)
    | some ds => takeFraction m e ds.chars
  (m, e + (match n.exponent with
    | none => 0
    | some x => x.value))

/-- A power of ten as a double, up to `10 ^ 308`. -/
def tenTo (e : Nat) : Float :=
  Float.ofScientific 1 false e

/-- A double divided by `10 ^ e`, at most `10 ^ 308` at a time; zero is reached at once. -/
def shrink (x : Float) (e : Nat) : Float :=
  if e ≤ 308 then x / tenTo e
  else if x == 0 then x
  else shrink (x / tenTo 308) (e - 308)
  termination_by e

/-- A double times `10 ^ e`; `none` where the result is beyond all doubles. -/
def grow? (x : Float) (e : Nat) : Option Float :=
  if e ≤ 308 then
    let y := x * tenTo e
    if y.isInf then none else some y
  else if x == 0 then some x
  else none

/-- The double that a literal denotes; `none` where it is beyond all doubles. -/
def toFloat? (n : Number) : Option Float :=
  let (m, e) := n.significand
  let x := Float.ofNat m
  let scaled? := if 0 ≤ e then grow? x e.toNat else some (shrink x (-e).toNat)
  scaled?.map fun y => if n.negative then -y else y

/-- **The integer that a literal denotes**, when it has neither fraction nor exponent, is not
minus zero, and fits: at least `-2 ^ 63`, at most `2 ^ 64 - 1`. -/
def integer? (n : Number) : Option Int :=
  match n.fraction, n.exponent with
  | none, none =>
    let m := n.whole.value
    if n.negative then
      if 1 ≤ m ∧ m ≤ 0x8000000000000000 then some (-(m : Int)) else none
    else if m ≤ greatest then some (m : Int) else none
  | _, _ => none

/-- **What a literal denotes**: an integer if it can, else a double; `none` where it is too
large. -/
def quantity? (n : Number) : Option Quantity :=
  match n.integer? with
  | some i => some (.integer i)
  | none => n.toFloat?.map .real

end Number

end Json

end CertDashboard
