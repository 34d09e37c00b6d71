import CertDashboard.Json.Basic

set_option autoImplicit false
set_option relaxedAutoImplicit false

/-!
# Lexemes of a JSON text

A text is cut into lexemes from left to right. Blanks between them are dropped; where no lexeme
starts, a last one marks the place, and what follows is not looked at.

## Main definitions

* `CertDashboard.Json.Lexeme` — a lexeme, scalars with what they denote.
* `CertDashboard.Json.Lexeme.scan` — the lexemes of a text.

## Design

Half of a surrogate pair and a number beyond all doubles are lexemes like any other: whether they
are accepted depends on who reads them.
-/

namespace CertDashboard

namespace Json

/-- **A lexeme.** -/
inductive Lexeme where
  /-- An opening bracket. -/
  | openArray
  /-- A closing bracket. -/
  | closeArray
  /-- An opening brace. -/
  | openObject
  /-- A closing brace. -/
  | closeObject
  /-- A comma. -/
  | comma
  /-- A colon. -/
  | colon
  /-- The word `null`. -/
  | null
  /-- The words `true` and `false`. -/
  | bool (b : Bool)
  /-- A number literal. -/
  | number (n : Number)
  /-- A string literal. -/
  | string (t : Content)
  /-- No lexeme starts here. -/
  | invalid
  deriving DecidableEq

namespace Lexeme

/-- The four blanks of the format. -/
def isBlank (c : Char) : Bool :=
  c == ' ' || c == '\n' || c == '\r' || c == '\t'

/-- The lexeme at the start of a text that does not start with a blank, and what follows it. -/
def next? : List Char → Option (Lexeme × List Char)
  | [] => none
  | '[' :: rest => some (.openArray, rest)
  | ']' :: rest => some (.closeArray, rest)
  | '\x7b' :: rest => some (.openObject, rest)
  | '\x7d' :: rest => some (.closeObject, rest)
  | ',' :: rest => some (.comma, rest)
  | ':' :: rest => some (.colon, rest)
  | '"' :: rest => (Literal.scan? rest).map fun (t, rest) => (.string t, rest)
  | 'n' :: 'u' :: 'l' :: 'l' :: rest => some (.null, rest)
  | 't' :: 'r' :: 'u' :: 'e' :: rest => some (.bool true, rest)
  | 'f' :: 'a' :: 'l' :: 's' :: 'e' :: rest => some (.bool false, rest)
  | cs => (Number.scan? cs).map fun (n, rest) => (.number n, rest)

/-- A lexeme uses up some of the text.

**Proof sketch.** By the cases of the first characters. For literals and numbers it is the same
of their readers (`Literal.length_scan?`, `Number.length_scan?`); every other lexeme is a fixed
word. -/
theorem length_next? {cs rest : List Char} {l : Lexeme} (h : next? cs = some (l, rest)) :
    rest.length < cs.length := by
  unfold next? at h
  split at h <;>
    simp only [reduceCtorEq, Option.some.injEq, Prod.mk.injEq, Option.map_eq_some_iff] at h
  case h_8 tail =>
    obtain ⟨⟨t, r⟩, hr, heq⟩ := h
    have := Literal.length_scan? hr
    simp only at heq
    simp only [← heq.2, List.length_cons]
    omega
  case h_12 =>
    obtain ⟨⟨n, r⟩, hr, heq⟩ := h
    have := Number.length_scan? hr
    simp only at heq
    rw [← heq.2]
    exact this
  all_goals
    obtain ⟨_, rfl⟩ := h
    simp only [List.length_cons]
    omega

/-- **The lexemes of a text.** -/
def scan (cs : List Char) : List Lexeme :=
  match cs with
  | [] => []
  | c :: rest =>
    if isBlank c then scan rest
    else
      match _h : next? (c :: rest) with
      | none => [.invalid]
      | some (l, tail) => l :: scan tail
  termination_by cs.length
  decreasing_by
    · simp
    · exact length_next? _h

/-- An empty text has no lexemes. -/
@[simp] theorem scan_nil : scan [] = [] := by
  rw [scan]

/-- A lexeme is followed by those of the rest. -/
theorem scan_next {cs rest : List Char} {l : Lexeme} (hblank : cs.head?.all isBlank = false)
    (h : next? cs = some (l, rest)) : scan cs = l :: scan rest := by
  cases cs with
  | nil => simp at hblank
  | cons c tail =>
    have hc : isBlank c = false := by simpa using hblank
    rw [scan, if_neg (by simp [hc])]
    split
    · next hn => rw [h] at hn; simp at hn
    · next l' tail' hn =>
      rw [h] at hn
      simp only [Option.some.injEq, Prod.mk.injEq] at hn
      rw [hn.1, hn.2]

end Lexeme

end Json

end CertDashboard
