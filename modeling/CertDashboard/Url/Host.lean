import CertDashboard.Text.Decimal
import CertDashboard.Url.Domain

set_option autoImplicit false
set_option relaxedAutoImplicit false

/-!
# Hosts

## Main definitions

* `CertDashboard.Url.Fault` — why a text is no address, and `Fault.message`.
* `CertDashboard.Url.Host` — a domain name or a network address, and `Host.render`.
* `CertDashboard.Url.Host.parse` — the host of an address.

## Design

A host whose last label is a number is an address of version 4 and has to be a valid one; each of
its numbers may be decimal, octal behind a zero, or hexadecimal behind `0x`, and the last one fills
the octets that are left. A host in brackets is an address of version 6.
-/

namespace CertDashboard

namespace Url

/-- **Why a text is no address.** -/
inductive Fault where
  /-- There is no scheme. -/
  | noScheme
  /-- The host is empty. -/
  | emptyHost
  /-- The host is no domain name. -/
  | domainName
  /-- The host has a character that no host has. -/
  | domainCharacter
  /-- The host is no address of version 4, but looks like one. -/
  | ipv4
  /-- The host is no address of version 6, but stands in brackets. -/
  | ipv6
  /-- The port is no number, or too large. -/
  | port
  deriving DecidableEq, Repr

/-- **The wording of a fault.** -/
def Fault.message : Fault → String
  | .noScheme => "relative URL without a base"
  | .emptyHost => "empty host"
  | .domainName => "invalid international domain name"
  | .domainCharacter => "invalid domain character"
  | .ipv4 => "invalid IPv4 address"
  | .ipv6 => "invalid IPv6 address"
  | .port => "invalid port number"

/-- **A host.** -/
inductive Host where
  /-- A domain name in ASCII. -/
  | domain (name : List Char)
  /-- An address of version 4 as one number. -/
  | ipv4 (address : Nat)
  /-- An address of version 6 as eight numbers. -/
  | ipv6 (groups : List Nat)
  deriving DecidableEq, Repr

/-! ## Version 4 -/

/-- The number that digits denote in a base; `none` if one of them is no digit of it. -/
def inBase? (base : Nat) (cs : List Char) : Option Nat :=
  cs.foldlM (fun n c =>
    match Hex.value? c with
    | some d => if d < base then some (n * base + d) else none
    | none => none) 0

/-- One number of an address of version 4. The prefix of a base alone is zero. -/
def ipv4Number? : List Char → Option Nat
  | [] => none
  | '0' :: 'x' :: rest => inBase? 16 rest
  | '0' :: 'X' :: rest => inBase? 16 rest
  | '0' :: c :: rest => inBase? 8 (c :: rest)
  | cs => inBase? 10 cs

/-- The labels of a name, without the empty one behind a full stop at its end. -/
def labels (name : List Char) : List (List Char) :=
  let all := Text.split (· == '.') name
  if 1 < all.length ∧ all.getLast? = some [] then all.dropLast else all

/-- Whether the last label of a name is a number. -/
def endsInNumber (name : List Char) : Bool :=
  match (labels name).getLast? with
  | none => false
  | some label =>
    (label ≠ [] && label.all Char.isDigit) || (ipv4Number? label).isSome

/-- The number of an address from those of its labels: each but the last one is an octet, and the
last one fills the octets that are left. -/
def combine? (numbers : List Nat) : Option Nat :=
  match numbers.getLast? with
  | none => none
  | some last =>
    let octets := numbers.dropLast
    let room := Nat.pow 256 (4 - octets.length)
    if 3 < octets.length ∨ octets.any (255 < ·) = true ∨ room ≤ last then none
    else some (octets.foldl (fun n o => n * 256 + o) 0 * room + last)

/-- **An address of version 4.** -/
def ipv4? (name : List Char) : Option Nat :=
  ((labels name).mapM ipv4Number?).bind combine?

/-- An address of version 4 as four octets. -/
def renderIpv4 (address : Nat) : List Char :=
  let octet := fun i => Decimal.digits (address / Nat.pow 256 i % 256)
  octet 3 ++ '.' :: octet 2 ++ '.' :: octet 1 ++ '.' :: octet 0

/-! ## Version 6 -/

/-- One group of an address of version 6: up to four hexadecimal digits. -/
def group? (cs : List Char) : Option Nat :=
  if cs ≠ [] ∧ cs.length ≤ 4 then inBase? 16 cs else none

/-- One octet of an address of version 4 at the end of one of version 6: no leading zeros. -/
def octet6? (cs : List Char) : Option Nat :=
  match Decimal.read? cs with
  | some n => if n ≤ 255 ∧ (cs.length = 1 ∨ cs.head? ≠ some '0') then some n else none
  | none => none

/-- Two groups from an address of version 4. -/
def mapped? (cs : List Char) : Option (List Nat) :=
  match (Text.split (· == '.') cs).mapM octet6? with
  | some [a, b, c, d] => some [a * 256 + b, c * 256 + d]
  | _ => none

/-- The numbers of some groups; the last one of the address may be one of version 4. -/
def groups? (isLast : Bool) : List (List Char) → Option (List Nat)
  | [] => some []
  | [g] =>
    match group? g with
    | some n => some [n]
    | none => if isLast then mapped? g else none
  | g :: h :: rest => do
    let n ← group? g
    let ns ← groups? isLast (h :: rest)
    some (n :: ns)

/-- The groups in front of a double colon and those behind it, if there is one. -/
def aroundGap? : List (List Char) → Option (List (List Char) × Option (List (List Char)))
  | [] :: [] :: rest => some ([], some rest)
  | [] :: _ => none
  | gs => match gs.dropWhile (· ≠ []) with
    | [] => some (gs, none)
    | _ :: rest => some (gs.takeWhile (· ≠ []), some rest)

/-- **An address of version 6**, without its brackets. -/
def ipv6? (cs : List Char) : Option (List Nat) := do
  let (front, back) ← aroundGap? (Text.split (· == ':') cs)
  match back with
  | none =>
    let ns ← groups? true front
    if ns.length = 8 then some ns else none
  | some [] => none
  | some back =>
    let ns ← groups? false front
    let ms ← groups? true (if back = [[]] then [] else back)
    if ns.length + ms.length ≤ 7 then
      some (ns ++ List.replicate (8 - ns.length - ms.length) 0 ++ ms)
    else none

/-- The length of the run of zeros at the start of some groups. -/
def zeros (groups : List Nat) : Nat :=
  (groups.takeWhile (· = 0)).length

/-- The longest run of zeros, the first of several. -/
def longestZeros : List Nat → Nat
  | [] => 0
  | g :: rest => max (zeros (g :: rest)) (longestZeros rest)

/-- Groups in hexadecimal with a colon between each two. -/
def joinGroups : List Nat → List Char
  | [] => []
  | [g] => Hex.number g
  | g :: h :: rest => Hex.number g ++ ':' :: joinGroups (h :: rest)

/-- The groups in front of the first run of zeros of a length, and those behind it. -/
def cutZeros (length : Nat) : List Nat → List Nat × List Nat
  | [] => ([], [])
  | g :: rest =>
    if zeros (g :: rest) = length then ([], (g :: rest).drop length)
    else (g :: (cutZeros length rest).1, (cutZeros length rest).2)

/-- An address of version 6: the first of the longest runs of zeros, if it has two groups at least,
is a double colon. -/
def renderIpv6 (groups : List Nat) : List Char :=
  let length := longestZeros groups
  if length < 2 then joinGroups groups
  else joinGroups (cutZeros length groups).1 ++ [':', ':'] ++ joinGroups (cutZeros length groups).2

namespace Host

/-- **The text of a host.** -/
def render : Host → List Char
  | .domain name => name
  | .ipv4 address => renderIpv4 address
  | .ipv6 groups => '[' :: renderIpv6 groups ++ [']']

/-- The address in brackets, if the text starts with one. -/
def bracketed? : List Char → Option (Except Fault Host)
  | '[' :: rest =>
    if rest.getLast? = some ']' then
      match ipv6? rest.dropLast with
      | some groups => some (.ok (.ipv6 groups))
      | none => some (.error .ipv6)
    else some (.error .ipv6)
  | _ => none

/-- **The host of an address.** -/
def parse (cs : List Char) : Except Fault Host :=
  match bracketed? cs with
  | some result => result
  | none =>
    match domain? cs with
    | none => .error .domainName
    | some [] => .error .emptyHost
    | some name =>
      if endsInNumber name then
        match ipv4? name with
        | some address => .ok (.ipv4 address)
        | none => .error .ipv4
      else .ok (.domain name)

/-- Characters that the host of an address without a domain name has not. -/
def isForbiddenInName (c : Char) : Bool :=
  c ∈ ['\x00', '\t', '\n', '\r', ' ', '#', '/', ':', '<', '>', '?', '@', '[', '\\', ']', '^', '|']

/-- The host of an address whose scheme has no domain names. -/
def parseName (cs : List Char) : Except Fault Host :=
  match bracketed? cs with
  | some result => result
  | none =>
    if cs.any isForbiddenInName then .error .domainCharacter
    else .ok (.domain (percentEncode inControlSet cs))

end Host

end Url

end CertDashboard
