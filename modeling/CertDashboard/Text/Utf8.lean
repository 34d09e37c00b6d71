set_option autoImplicit false
set_option relaxedAutoImplicit false

/-!
# UTF-8, read with replacements

Octets from outside need not be UTF-8. They are read by a machine that takes one octet at a time;
where no character can go on, it writes the replacement character for the octets taken so far and
starts again at the octet that did not fit.

## Main definitions

* `CertDashboard.Utf8.Owed` — what an unfinished character still needs.
* `CertDashboard.Utf8.decode` — the characters of a list of octets.
* `CertDashboard.Utf8.encode` — the octets of a list of characters.
-/

namespace CertDashboard

namespace Utf8

/-- **What an unfinished character still needs**: the number of octets, the bounds of the next
one, and the value collected so far. -/
structure Owed where
  /-- Octets still to come after the next one. -/
  after : Nat
  /-- Least next octet. -/
  low : Nat
  /-- Greatest next octet. -/
  high : Nat
  /-- Value collected so far. -/
  value : Nat
  deriving DecidableEq, Repr

/-- The character written where octets are no UTF-8. -/
def replacement : Char := '\uFFFD'

/-- An octet between characters: a whole character, or the start of a longer one. -/
def start (b : Nat) : Char ⊕ Owed :=
  if b < 0x80 then .inl (Char.ofNat b)
  else if 0xC2 ≤ b ∧ b ≤ 0xDF then .inr ⟨0, 0x80, 0xBF, b - 0xC0⟩
  else if b = 0xE0 then .inr ⟨1, 0xA0, 0xBF, 0⟩
  else if b = 0xED then .inr ⟨1, 0x80, 0x9F, 0xD⟩
  else if 0xE1 ≤ b ∧ b ≤ 0xEF then .inr ⟨1, 0x80, 0xBF, b - 0xE0⟩
  else if b = 0xF0 then .inr ⟨2, 0x90, 0xBF, 0⟩
  else if 0xF1 ≤ b ∧ b ≤ 0xF3 then .inr ⟨2, 0x80, 0xBF, b - 0xF0⟩
  else if b = 0xF4 then .inr ⟨2, 0x80, 0x8F, 4⟩
  else .inl replacement

/-- Reads the octets from between characters (`none`) or from inside one. -/
def decodeFrom : Option Owed → List UInt8 → List Char
  | none, [] => []
  | some _, [] => [replacement]
  | none, b :: rest =>
    match start b.toNat with
    | .inl c => c :: decodeFrom none rest
    | .inr owed => decodeFrom (some owed) rest
  | some owed, b :: rest =>
    if owed.low ≤ b.toNat ∧ b.toNat ≤ owed.high then
      let value := owed.value * 64 + (b.toNat - 0x80)
      match owed.after with
      | 0 => Char.ofNat value :: decodeFrom none rest
      | after + 1 => decodeFrom (some ⟨after, 0x80, 0xBF, value⟩) rest
    else
      match start b.toNat with
      | .inl c => replacement :: c :: decodeFrom none rest
      | .inr next => replacement :: decodeFrom (some next) rest

/-- **The characters of a list of octets**, with a replacement character for every longest start
of a character that is not continued. -/
def decode (bytes : List UInt8) : List Char :=
  decodeFrom none bytes

/-- **The octets of a list of characters.** -/
def encode (cs : List Char) : List UInt8 :=
  cs.flatMap String.utf8EncodeChar

end Utf8

end CertDashboard
