import CertDashboard.Text.Split
import CertDashboard.Url.Label
import CertDashboard.Url.Percent

set_option autoImplicit false
set_option relaxedAutoImplicit false

/-!
# Domain names

A domain name is brought into lower-case ASCII before anything is looked up: its characters are
folded and composed, its labels are checked, and those with characters beyond ASCII are written
in ASCII.

## Main definitions

* `CertDashboard.Url.isForbidden` — the ASCII characters that no domain name has.
* `CertDashboard.Url.labels?` — the labels of a domain name, folded and composed.
* `CertDashboard.Url.domain?` — the ASCII form of a domain name.
-/

namespace CertDashboard

namespace Url

/-- **The ASCII characters that no domain name has**: controls, blanks, and the characters that part
an address. -/
def isForbidden (c : Char) : Bool :=
  c.toNat ≤ 0x20 || c.toNat == 0x7F ||
    c ∈ ['%', '#', '/', ':', '<', '>', '?', '@', '[', '\\', ']', '^', '|']

/-- Labels with a full stop between each two. -/
def joinLabels : List (List Char) → List Char
  | [] => []
  | [label] => label
  | label :: next :: rest => label ++ '.' :: joinLabels (next :: rest)

/-- The labels of a domain name, folded and composed; `none` where a character is in no domain
name. -/
def labels? (cs : List Char) : Option (List (List Char)) :=
  (foldAll? cs).map fun folded => Text.split (· == '.') (Unicode.compose folded)

/-- **Whether labels make a domain name**, given what they stand for: each is sound by itself, and
if one has characters from right to left then all are directed well. -/
def areSound (labels : List (List Char)) : Bool :=
  labels.all (fun cs => !cs.any isForbidden && Label.isSound cs) &&
    (!labels.any Label.isDirected || labels.all Label.isDirectedWell)

/-- **The ASCII form of a domain name**, which may come with `%XX` octets; `none` for what is no
domain name. -/
def domain? (name : List Char) : Option (List Char) := do
  let labels ← labels? (Utf8.decode (percentDecode name))
  let meant ← labels.mapM Label.read?
  if areSound meant then some (joinLabels (labels.map Punycode.encode)) else none

end Url

end CertDashboard
