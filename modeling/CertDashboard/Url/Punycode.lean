set_option autoImplicit false
set_option relaxedAutoImplicit false

/-!
# Punycode

A label of a domain name that has characters beyond ASCII is written in ASCII: first its ASCII
characters, then a hyphen, then the places of the other ones. These are visited in ascending order
of code point, and each place is told by its distance from the last one, as a number in base 36
with a digit threshold that follows the distances seen so far.

## Main definitions

* `CertDashboard.Url.Punycode.distance` — a distance in digits.
* `CertDashboard.Url.Punycode.encode` — a label in ASCII.
* `CertDashboard.Url.Punycode.decode?` — the label that ASCII characters stand for.

## Main results

* `CertDashboard.Url.Punycode.threshold_pos` — the threshold is positive, and so a distance has
  finitely many digits.
-/

namespace CertDashboard

namespace Url

namespace Punycode

/-- The digit of a number below 36: letters, then numerals. -/
def digit (n : Nat) : Char :=
  if n < 26 then Char.ofNat ('a'.toNat + n) else Char.ofNat ('0'.toNat + (n - 26))

/-- The number below 36 that a digit stands for. -/
def value? (c : Char) : Option Nat :=
  if 'a' ≤ c ∧ c ≤ 'z' then some (c.toNat - 'a'.toNat)
  else if '0' ≤ c ∧ c ≤ '9' then some (c.toNat - '0'.toNat + 26)
  else none

/-- The threshold of the digit at a position: a smaller digit is the last one. -/
def threshold (bias position : Nat) : Nat :=
  if position ≤ bias then 1 else if bias + 26 ≤ position then 26 else position - bias

/-- Every threshold leaves the smallest digit to end a number. -/
theorem threshold_pos (bias position : Nat) : 1 ≤ threshold bias position := by
  unfold threshold
  split
  · omega
  · split <;> omega

/-- **A distance in digits**, least significant first. -/
def distance (bias position n : Nat) : List Char :=
  let t := threshold bias position
  if n < t then [digit n]
  else digit (t + (n - t) % (36 - t)) :: distance bias (position + 36) ((n - t) / (36 - t))
  termination_by n
  decreasing_by
    have := threshold_pos bias position
    have := Nat.div_le_self (n - threshold bias position) (36 - threshold bias position)
    omega

/-- Scales a distance down, 36 positions for each division. -/
def scale (n position : Nat) : Nat :=
  if 455 < n then scale (n / 35) (position + 36) else position + 36 * n / (n + 38)
  termination_by n
  decreasing_by exact Nat.div_lt_self (by omega) (by decide)

/-- The bias after a distance, when so many characters are placed. -/
def adapt (n placed : Nat) (isFirst : Bool) : Nat :=
  let halved := if isFirst then n / 700 else n / 2
  scale (halved + halved / placed) 0

/-! ## Writing -/

/-- **A label half way**: the digits so far, the distance that is growing, the bias, and the number
of characters placed. -/
structure Partial where
  /-- Digits so far. -/
  digits : List Char
  /-- Distance from the last place. -/
  travelled : Nat
  /-- Bias of the threshold. -/
  bias : Nat
  /-- Characters placed. -/
  placed : Nat

/-- Passes one character of the label while the characters of a code point are placed. -/
def Partial.pass (p : Partial) (ascii code : Nat) (c : Char) : Partial :=
  if c.toNat < code then { p with travelled := p.travelled + 1 }
  else if c.toNat = code then
    { digits := p.digits ++ distance p.bias 36 p.travelled
      travelled := 0
      bias := adapt p.travelled (p.placed + 1) (p.placed == ascii)
      placed := p.placed + 1 }
  else p

/-- Places the characters of the given code points, in ascending order; `next` is the least code
point that is not placed. -/
def place (label : List Char) (ascii : Nat) : Nat → Partial → List Nat → Partial
  | _, p, [] => p
  | next, p, code :: rest =>
    let moved := { p with travelled := p.travelled + (code - next) * (p.placed + 1) }
    let passed := label.foldl (fun p c => p.pass ascii code c) moved
    place label ascii (code + 1) { passed with travelled := passed.travelled + 1 } rest

/-- Puts a number into an ascending list, unless it is there. -/
def insertSorted (n : Nat) : List Nat → List Nat
  | [] => [n]
  | m :: rest =>
    if n < m then n :: m :: rest else if n = m then m :: rest else m :: insertSorted n rest

/-- Whether a character is one of ASCII. -/
def isAscii (c : Char) : Bool :=
  decide (c.toNat < 0x80)

/-- The mark in front of a label that is written in ASCII. -/
def mark : List Char := ['x', 'n', '-', '-']

/-- **A label in ASCII**, with the mark of this form in front; an ASCII label is itself. -/
def encode (label : List Char) : List Char :=
  if label.all isAscii then label
  else
    let basic := label.filter isAscii
    let codes :=
      (label.filter fun c => !isAscii c).foldr (fun c codes => insertSorted c.toNat codes) []
    let start : Partial := ⟨[], 0, 72, basic.length⟩
    let stem := if basic.isEmpty then [] else basic ++ ['-']
    mark ++ stem ++ (place label basic.length 0x80 start codes).digits

/-! ## Reading -/

/-- Numbers are of 32 bits. -/
def limit : Nat := UInt32.size

/-- The character of a code point, if there is one. -/
def character? (code : Nat) : Option Char :=
  if code < 0xD800 ∨ (0xDFFF < code ∧ code < 0x110000) then some (Char.ofNat code) else none

/-- **A label half read**: the characters so far, and what is known of the next one. -/
structure Reading where
  /-- The characters so far. -/
  label : List Char
  /-- The code point of the last character that was placed. -/
  code : Nat
  /-- Bias of the threshold. -/
  bias : Nat
  /-- The place at which the distance that is being read starts. -/
  origin : Nat
  /-- The place that the digits so far lead to. -/
  place : Nat
  /-- What the next digit is worth. -/
  weight : Nat
  /-- The position of the next digit, counted in steps of 36. -/
  position : Nat

/-- One more digit. A digit below the threshold is the last one of its distance; going that far
through the label, and on to the next code point at each end of it, one comes to the place of the
next character. -/
def Reading.step (r : Reading) (c : Char) : Option Reading := do
  let digit ← value? c
  let place := r.place + digit * r.weight
  if limit ≤ place then none
  else
    let t := threshold r.bias r.position
    if t ≤ digit then
      let weight := r.weight * (36 - t)
      if limit ≤ weight then none
      else some { r with place := place, weight := weight, position := r.position + 36 }
    else
      let size := r.label.length + 1
      let code := r.code + place / size
      let char ← character? code
      some
        { label := r.label.insertIdx (place % size) char
          code := code
          bias := adapt (place - r.origin) size (r.origin == 0)
          origin := place % size + 1
          place := place % size + 1
          weight := 1
          position := 36 }

/-- The ASCII characters of a label and the digits behind them: what is in front of the last hyphen
and behind it. A hyphen with nothing in front is no such one. -/
def parts (cs : List Char) : List Char × List Char :=
  match cs.reverse.dropWhile (· ≠ '-') with
  | _ :: c :: basic => ((c :: basic).reverse, (cs.reverse.takeWhile (· ≠ '-')).reverse)
  | _ => ([], cs)

/-- **The label that ASCII characters stand for**, without the mark in front of them; `none` where
they break off or lead nowhere. -/
def decode? (cs : List Char) : Option (List Char) := do
  let (basic, digits) := parts cs
  let r ← digits.foldlM Reading.step ⟨basic, 0x80, 72, 0, 0, 1, 36⟩
  if r.position = 36 then some r.label else none

end Punycode

end Url

end CertDashboard
