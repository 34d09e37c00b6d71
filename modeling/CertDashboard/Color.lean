import CertDashboard.Text.Hex

set_option autoImplicit false
set_option relaxedAutoImplicit false

/-!
# The expiry gradient

A certificate card is black once expired, red for the last three days, and green from four weeks
on. Between these two, four straight segments lead from red over orange, amber and yellow to green.

## Main definitions

* `CertDashboard.Channel` — the numbers that color channels are computed with.
* `CertDashboard.Rgb` — a color, and `Rgb.shift`, a step toward another one.
* `CertDashboard.Palette` — the colors that the gradient goes through.
* `CertDashboard.Rgb.gradient` — the color of a number of days.
* `CertDashboard.Rgb.toHex` — the color as a style sheet has it.

## Design

The gradient is generic in the numbers. Doubles run it; rationals are there to reason about it, as
their arithmetic is exact.
-/

namespace CertDashboard

/-- **Numbers for color channels**: arithmetic, a comparison, and the byte of a channel. -/
class Channel (α : Type) extends Add α, Sub α, Mul α, Div α where
  /-- A whole number. -/
  whole : Nat → α
  /-- Whether a number is less than another one. -/
  less : α → α → Bool
  /-- The nearest whole number from 0 to 255, a half going away from zero. -/
  byte : α → UInt8

/-- Doubles, rounding at each step. What is not a number has the byte zero. -/
instance : Channel Float where
  whole := Float.ofNat
  less a b := a < b
  byte x := x.round.toUInt8

/-- Rational numbers, exactly. -/
instance : Channel Rat where
  whole n := n
  less a b := decide (a < b)
  byte x := UInt8.ofNat (min 255 (x + 1 / 2).floor.toNat)

/-- **A color** by its channels, from 0 to 255. -/
structure Rgb (α : Type) where
  /-- Red channel. -/
  red : α
  /-- Green channel. -/
  green : α
  /-- Blue channel. -/
  blue : α
  deriving Repr

namespace Rgb

variable {α : Type} [Channel α]

/-- A color with whole channels. -/
def ofNats (red green blue : Nat) : Rgb α :=
  ⟨Channel.whole red, Channel.whole green, Channel.whole blue⟩

/-- **A step toward another color**, by a fraction of the way in every channel. -/
def shift (start target : Rgb α) (fraction : α) : Rgb α :=
  ⟨start.red + (target.red - start.red) * fraction,
    start.green + (target.green - start.green) * fraction,
    start.blue + (target.blue - start.blue) * fraction⟩

end Rgb

/-! ## The anchors of the gradient -/

namespace Palette

variable {α : Type} [Channel α]

/-- Expired. -/
def black : Rgb α := .ofNats 0 0 0

/-- Less than three days. -/
def red : Rgb α := .ofNats 229 53 69

/-- One week. -/
def orange : Rgb α := .ofNats 253 126 20

/-- Two weeks. -/
def amber : Rgb α := .ofNats 255 193 7

/-- Three weeks. -/
def yellow : Rgb α := .ofNats 200 185 15

/-- Four weeks and more. -/
def green : Rgb α := .ofNats 40 167 69

end Palette

/-! ## The gradient -/

namespace Rgb

variable {α : Type} [Channel α]

/-- **A straight segment of the gradient**, from a number of days up to another one. -/
structure Segment (α : Type) where
  /-- First day. -/
  lower : Nat
  /-- Day at which the next segment starts. -/
  upper : Nat
  /-- Color of the first day. -/
  start : Rgb α
  /-- Color of the last one. -/
  target : Rgb α

/-- The segments, in order; each starts where the one before it ends. -/
def segments : List (Segment α) :=
  [⟨3, 7, Palette.red, Palette.orange⟩, ⟨7, 14, Palette.orange, Palette.amber⟩,
    ⟨14, 21, Palette.amber, Palette.yellow⟩, ⟨21, 28, Palette.yellow, Palette.green⟩]

/-- The color of a number of days on a segment. -/
def Segment.color (s : Segment α) (days : α) : Rgb α :=
  let width : α := Channel.whole s.upper - Channel.whole s.lower
  s.start.shift s.target (Channel.whole 1 - (Channel.whole s.upper - days) / width)

/-- **The color of a number of days.** -/
def gradient (days : α) : Rgb α :=
  if Channel.less days (Channel.whole 0) then Palette.black
  else if Channel.less days (Channel.whole 3) then Palette.red
  else
    match segments.find? fun s => Channel.less days (Channel.whole s.upper) with
    | some s => s.color days
    | none => Palette.green

/-- **The color as a style sheet has it**: a number sign and two digits for each channel. -/
def toHex (c : Rgb α) : String :=
  String.ofList ('#' :: (Hex.byte (Channel.byte c.red) ++ Hex.byte (Channel.byte c.green) ++
    Hex.byte (Channel.byte c.blue)))

end Rgb

end CertDashboard
