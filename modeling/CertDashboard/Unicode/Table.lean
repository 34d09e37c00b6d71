set_option autoImplicit false
set_option relaxedAutoImplicit false

/-!
# Tables of characters

A property of characters is a table of runs of code points, ascending and apart. What characters are
replaced by, or made of, is a table of texts. All tables are those of version 17 of the character
database.

## Main definitions

* `CertDashboard.Unicode.Span` — a run of code points.
* `CertDashboard.Unicode.contains` — whether a character lies in one of several runs.
* `CertDashboard.Unicode.areApart` — whether runs are ascending and apart.
* `CertDashboard.Unicode.Shift` — a run of code points and where it is moved to.
* `CertDashboard.Unicode.Row` — consecutive code points and a text for each.
* `CertDashboard.Unicode.Class` — a number and the code points that have it.
-/

namespace CertDashboard

namespace Unicode

/-! ## Runs -/

/-- **A run of code points**, both ends included. -/
structure Span where
  /-- The first code point. -/
  first : Nat
  /-- The last code point. -/
  last : Nat
  deriving DecidableEq, Repr

/-- Whether a character lies in a run. -/
def Span.holds (s : Span) (c : Char) : Bool :=
  decide (s.first ≤ c.toNat) && decide (c.toNat ≤ s.last)

/-- **Whether a character lies in one of several runs.** -/
def contains (runs : List Span) (c : Char) : Bool :=
  runs.any fun s => s.holds c

/-- **Whether runs are ascending and apart**, so that no two of them could be one. -/
def areApart : List Span → Bool
  | [] => true
  | [s] => decide (s.first ≤ s.last)
  | s :: t :: rest =>
    decide (s.first ≤ s.last) && decide (s.last + 1 < t.first) && areApart (t :: rest)

/-! ## Runs that are moved -/

/-- **A run of code points and where it is moved to.** -/
structure Shift where
  /-- The run. -/
  span : Span
  /-- The image of its first code point. -/
  target : Nat
  deriving DecidableEq, Repr

/-- The image of a character, when every code point of the run that is a number of steps away from
the first one is moved. -/
def Shift.image? (step : Nat) (s : Shift) (c : Char) : Option Char :=
  if s.span.holds c && (c.toNat - s.span.first) % step == 0 then
    some (Char.ofNat (c.toNat - s.span.first + s.target))
  else none

/-! ## Texts -/

/-- **Consecutive code points and a text for each**, in code points too. -/
structure Row where
  /-- The first code point. -/
  first : Nat
  /-- The texts, that of the first code point first. -/
  texts : List (List Nat)
  deriving DecidableEq, Repr

/-- The text that a row has for a character. -/
def Row.text? (r : Row) (c : Char) : Option (List Char) :=
  if r.first ≤ c.toNat then
    r.texts[c.toNat - r.first]?.map fun text => text.map Char.ofNat
  else none

/-- The character for which a row has a text. -/
def Row.character? (r : Row) (text : List Char) : Option Char :=
  (r.texts.findIdx? (· == text.map Char.toNat)).map fun i => Char.ofNat (r.first + i)

/-! ## Numbers -/

/-- **A number and the code points that have it.** -/
structure Class where
  /-- The number. -/
  value : Nat
  /-- The code points. -/
  runs : List Span
  deriving DecidableEq, Repr

end Unicode

end CertDashboard
