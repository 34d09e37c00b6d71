import CertDashboard.Unicode.Composition
import CertDashboard.Unicode.Direction
import CertDashboard.Unicode.Joining
import CertDashboard.Url.Folding
import CertDashboard.Url.Punycode

set_option autoImplicit false
set_option relaxedAutoImplicit false

/-!
# Labels of domain names

A domain name is a list of labels. A label that is written in ASCII behind a mark stands for
characters beyond it, and it is these that the rules are about: no mark at the start, no joiners
where nothing is joined, and no mixture of directions.

## Main definitions

* `CertDashboard.Url.Label.read?` — the characters that a label stands for.
* `CertDashboard.Url.Label.isJoinedWell` — the rule for joiners.
* `CertDashboard.Url.Label.isDirectedWell` — the rule for directions.
-/

namespace CertDashboard

namespace Url

namespace Label

open Unicode (Direction direction)

/-! ## What a label stands for -/

/-- The most characters of a label that is read from ASCII, and of one that is written in it. -/
def mostRead : Nat := 2000

/-- The most characters of a label with characters beyond ASCII. -/
def mostWritten : Nat := 1000

/-- Whether a text is in the form to which domain names are brought. -/
def isSettled (cs : List Char) : Bool :=
  foldAll? cs == some cs && Unicode.compose cs == cs

/-- **The characters that a label stands for.** What is written in ASCII behind the mark has to
stand for something beyond ASCII, in the form to which domain names are brought. -/
def read? (label : List Char) : Option (List Char) :=
  if Punycode.mark.isPrefixOf label then
    let code := label.drop Punycode.mark.length
    if mostRead < code.length then none
    else (Punycode.decode? code).filter fun cs => !cs.all Punycode.isAscii && isSettled cs
  else some label

/-! ## Joiners -/

/-- Whether there is a letter with a property, and nothing but transparent characters before it. -/
def reaches (p : Char → Bool) : List Char → Bool
  | [] => false
  | c :: rest => p c || (Unicode.isTransparent c && reaches p rest)

/-- **Whether a joiner stands where it may**, between what is before it, last character first, and
what is behind it: behind a sign that takes the vowel from a letter, or, if it is one that parts
letters, between two that would be joined. -/
def mayJoin (joiner : Char) (before behind : List Char) : Bool :=
  (before.head?.any Unicode.isKiller) ||
    (joiner == '\u200C' && reaches Unicode.joinsNext before && reaches Unicode.joinsLast behind)

/-- The rule for joiners from some place on, with the characters before it in reverse. -/
def isJoinedWellFrom (before : List Char) : List Char → Bool
  | [] => true
  | c :: rest => (!isJoiner c || mayJoin c before rest) && isJoinedWellFrom (c :: before) rest

/-- **The rule for joiners**: each stands where it may. -/
def isJoinedWell (cs : List Char) : Bool :=
  isJoinedWellFrom [] cs

/-! ## Directions -/

/-- Whether characters make their domain name one with directions. -/
def isDirected (cs : List Char) : Bool :=
  cs.any fun c => direction c = .right || direction c = .arabicNumber

/-- The rule for directions in a label that starts with a direction. -/
def mayFollow (first : Direction) (directions : List Direction) : Bool :=
  let last := (directions.filter (· ≠ .mark)).getLast?
  match first with
  | .left =>
    directions.all (fun d => d ≠ .right && d ≠ .arabicNumber) &&
      last.all fun d => d = .left || d = .europeanNumber
  | .right =>
    directions.all (· ≠ .left) &&
      !(directions.contains .europeanNumber && directions.contains .arabicNumber) &&
      last.all fun d => d ≠ .neutral
  | _ => false

/-- **The rule for directions**: a label starts with a letter; behind one from left to right come
none from right to left and no Arabic digits, and behind one from right to left none from left to
right and not both kinds of digits; and it ends with a letter or a digit, apart from marks. -/
def isDirectedWell (cs : List Char) : Bool :=
  match cs.map direction with
  | [] => true
  | first :: rest => mayFollow first (first :: rest)

/-! ## All rules -/

/-- **The rules for a label by itself.** -/
def isSound (cs : List Char) : Bool :=
  (cs.all Punycode.isAscii || decide (cs.length ≤ mostWritten)) &&
    !cs.head?.any Unicode.isMark && isJoinedWell cs

end Label

end Url

end CertDashboard
