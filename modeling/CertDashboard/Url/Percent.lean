import CertDashboard.Text.Hex
import CertDashboard.Text.Utf8

set_option autoImplicit false
set_option relaxedAutoImplicit false

/-!
# Percent encoding

## Main definitions

* `CertDashboard.Url.percentEncode` — a text with some of its characters as `%XX` octets.
* `CertDashboard.Url.percentDecode` — the octets of a text, `%XX` read as one.
* `CertDashboard.Url.inFragmentSet` and the sets built on it — what each part of an address encodes.
-/

namespace CertDashboard

namespace Url

/-- Controls and everything beyond ASCII. -/
def inControlSet (c : Char) : Bool :=
  c.toNat < 0x20 || 0x7E < c.toNat

/-- What a fragment encodes. -/
def inFragmentSet (c : Char) : Bool :=
  inControlSet c || c ∈ [' ', '"', '<', '>', '\x60']

/-- What a query encodes. -/
def inQuerySet (c : Char) : Bool :=
  inControlSet c || c ∈ [' ', '"', '#', '<', '>', '\'']

/-- What a path encodes. -/
def inPathSet (c : Char) : Bool :=
  inFragmentSet c || c ∈ ['#', '?', '\x7b', '\x7d']

/-- What a user name and a password encode. -/
def inUserSet (c : Char) : Bool :=
  inPathSet c || c ∈ ['/', ':', ';', '=', '@', '[', '\\', ']', '^', '|']

/-- An octet as `%XX`. -/
def percentOctet (b : UInt8) : List Char :=
  ['%', Hex.capital (b.toNat / 16), Hex.capital b.toNat]

/-- One character: its octets as `%XX` if it is in the set. -/
def percentChar (set : Char → Bool) (c : Char) : List Char :=
  if set c then (Utf8.encode [c]).flatMap percentOctet else [c]

/-- **A text with the characters of a set as octets.** -/
def percentEncode (set : Char → Bool) (cs : List Char) : List Char :=
  cs.flatMap (percentChar set)

/-- The octet of two hexadecimal digits. -/
def octet? (a b : Char) : Option UInt8 := do
  let a ← Hex.value? a
  let b ← Hex.value? b
  some (UInt8.ofNat (a * 16 + b))

/-- **The octets of a text**: `%XX` is one octet, and a percent sign without two digits stands for
itself. -/
def percentDecode : List Char → List UInt8
  | [] => []
  | '%' :: a :: b :: rest =>
    match octet? a b with
    | some o => o :: percentDecode rest
    | none => Utf8.encode ['%'] ++ percentDecode (a :: b :: rest)
  | c :: rest => Utf8.encode [c] ++ percentDecode rest

end Url

end CertDashboard
