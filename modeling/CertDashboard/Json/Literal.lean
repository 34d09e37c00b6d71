import CertDashboard.Text.Hex

set_option autoImplicit false
set_option relaxedAutoImplicit false

/-!
# String literals

Writing escapes the quote, the backslash and the controls and nothing else. Reading accepts every
escape of the format. A numbered escape names a UTF-16 unit, so two of them may stand for one
character, and one alone may stand for none.

## Main definitions

* `CertDashboard.Json.Literal.encode` — the characters of a text between the quotes.
* `CertDashboard.Json.Content` — what a literal denotes, and whether all its surrogates are paired.
* `CertDashboard.Json.Literal.scan?` — the literal at the start of a text, behind its first quote.

## Main results

* `CertDashboard.Json.Literal.encodeChar_cases` — the three ways in which a character is written.
* `CertDashboard.Json.Literal.scan?_encode` — reading undoes writing, whatever follows.
-/

namespace CertDashboard

namespace Json

namespace Literal

/-- One character between the quotes: short escapes where the format has one, numbered escapes for
the other controls, and the character itself otherwise. -/
def encodeChar (c : Char) : List Char :=
  if c = '"' then ['\\', '"']
  else if c = '\\' then ['\\', '\\']
  else if c = '\x08' then ['\\', 'b']
  else if c = '\x0c' then ['\\', 'f']
  else if c = '\n' then ['\\', 'n']
  else if c = '\r' then ['\\', 'r']
  else if c = '\t' then ['\\', 't']
  else if c.toNat < 0x20 then
    ['\\', 'u', '0', '0', Hex.digit (c.toNat / 16), Hex.digit c.toNat]
  else [c]

/-- **The characters of a text between the quotes.** -/
def encode (cs : List Char) : List Char :=
  cs.flatMap encodeChar

/-- **What is read at one place of a literal**: a character, or half of a surrogate pair. -/
inductive Piece where
  /-- A character. -/
  | char (c : Char)
  /-- A UTF-16 unit that is half of a pair. -/
  | half (unit : Nat)
  deriving DecidableEq, Repr

/-- The piece that a UTF-16 unit is. -/
def Piece.ofUnit (unit : Nat) : Piece :=
  if 0xD800 ≤ unit ∧ unit < 0xE000 then .half unit else .char (Char.ofNat unit)

/-- The UTF-16 unit of a numbered escape. -/
def unit? (a b c d : Char) : Option Nat := do
  let a ← Hex.value? a
  let b ← Hex.value? b
  let c ← Hex.value? c
  let d ← Hex.value? d
  some (((a * 16 + b) * 16 + c) * 16 + d)

/-- The character of a short escape. -/
def short? (c : Char) : Option Char :=
  if c = '"' ∨ c = '\\' ∨ c = '/' then some c
  else if c = 'b' then some '\x08'
  else if c = 'f' then some '\x0c'
  else if c = 'n' then some '\n'
  else if c = 'r' then some '\r'
  else if c = 't' then some '\t'
  else none

/-- The pieces up to the closing quote, and what follows it; `none` at an unknown escape, a raw
control, or the end of the text. -/
def pieces? : List Char → Option (List Piece × List Char)
  | [] => none
  | '"' :: rest => some ([], rest)
  | '\\' :: 'u' :: a :: b :: c :: d :: rest =>
    (unit? a b c d).bind fun unit =>
      (pieces? rest).map fun (ps, rest) => (Piece.ofUnit unit :: ps, rest)
  | '\\' :: e :: rest =>
    (short? e).bind fun c => (pieces? rest).map fun (ps, rest) => (Piece.char c :: ps, rest)
  | c :: rest =>
    if c = '\\' ∨ c.toNat < 0x20 then none
    else (pieces? rest).map fun (ps, rest) => (Piece.char c :: ps, rest)

end Literal

/-- **What a string literal denotes**: characters, with a replacement character for every half of
a surrogate pair that stands alone. -/
structure Content where
  /-- Characters. -/
  chars : List Char
  /-- Whether no half of a pair stands alone. -/
  isPaired : Bool
  deriving DecidableEq, Repr

/-- A text that is written with no half of a pair alone. -/
def Content.ofString (s : String) : Content :=
  ⟨s.toList, true⟩

/-- The characters as a string. -/
def Content.toString (t : Content) : String :=
  String.ofList t.chars

/-- The content made of a string reads as that string. -/
@[simp] theorem Content.toString_ofString (s : String) : (Content.ofString s).toString = s := by
  simp [Content.ofString, Content.toString]

/-- The content made of a string has no lone surrogate. -/
@[simp] theorem Content.isPaired_ofString (s : String) : (Content.ofString s).isPaired = true := rfl

/-- One more character in front. -/
def Content.cons (c : Char) (t : Content) : Content :=
  ⟨c :: t.chars, t.isPaired⟩

namespace Literal

/-- The character of a surrogate pair. -/
def pair? (high low : Nat) : Option Char :=
  if high < 0xDC00 ∧ 0xDC00 ≤ low then
    some (Char.ofNat (0x10000 + (high - 0xD800) * 0x400 + (low - 0xDC00)))
  else none

/-- Joins the halves of surrogate pairs that follow each other. -/
def join : List Piece → Content
  | [] => ⟨[], true⟩
  | .char c :: ps => (join ps).cons c
  | .half high :: .half low :: ps =>
    match pair? high low with
    | some c => (join ps).cons c
    | none => ⟨'\uFFFD' :: (join (.half low :: ps)).chars, false⟩
  | .half _ :: ps => ⟨'\uFFFD' :: (join ps).chars, false⟩

/-- **The literal at the start of a text**, behind its first quote, and what follows it. -/
def scan? (cs : List Char) : Option (Content × List Char) :=
  (pieces? cs).map fun (ps, rest) => (join ps, rest)

/-- Characters that stand for themselves denote themselves. -/
theorem join_map_char (cs : List Char) : join (cs.map .char) = ⟨cs, true⟩ := by
  induction cs with
  | nil => rfl
  | cons c cs ih => simp [join, ih, Content.cons]

/-- The short escapes that are written, each with the character that it stands for. -/
def shortEscapes : List (Char × Char) :=
  [('"', '"'), ('\\', '\\'), ('b', '\x08'), ('f', '\x0c'), ('n', '\n'), ('r', '\r'), ('t', '\t')]

/-- **A character is written in one of three ways**: as a short escape, as the numbered escape of a
control, or as it is.

**Proof sketch.** By whether the character is one of those that have a short escape, which is
evaluated for each of them. No other one passes the first seven tests of the encoder, and the eighth
is for controls. -/
theorem encodeChar_cases (c : Char) :
    (∃ e, (e, c) ∈ shortEscapes ∧ encodeChar c = ['\\', e]) ∨
      (c.toNat < 0x20 ∧ encodeChar c =
        ['\\', 'u', '0', '0', Hex.digit (c.toNat / 16), Hex.digit c.toNat]) ∨
      (c ≠ '"' ∧ c ≠ '\\' ∧ 0x20 ≤ c.toNat ∧ encodeChar c = [c]) := by
  by_cases hshort : ∃ e, (e, c) ∈ shortEscapes
  · obtain ⟨e, he⟩ := hshort
    have hwritten : ∀ p ∈ shortEscapes, encodeChar p.2 = ['\\', p.1] := by decide
    exact .inl ⟨e, he, hwritten _ he⟩
  · have hother : ∀ p ∈ shortEscapes, c ≠ p.2 := fun p hp heq => hshort ⟨p.1, heq ▸ hp⟩
    simp only [shortEscapes, List.forall_mem_cons] at hother
    obtain ⟨hquote, hslash, hb, hf, hn, hr, ht, -⟩ := hother
    by_cases hlt : c.toNat < 0x20
    · refine .inr (.inl ⟨hlt, ?_⟩)
      simp [encodeChar, hquote, hslash, hb, hf, hn, hr, ht, hlt]
    · refine .inr (.inr ⟨hquote, hslash, Nat.le_of_not_lt hlt, ?_⟩)
      simp [encodeChar, hquote, hslash, hb, hf, hn, hr, ht, hlt]

/-- An encoded character in front of readable pieces is one more piece.

**Proof sketch.** By the three ways to write it (`encodeChar_cases`). A short escape is read by
`short?`. The four digits of a numbered one have the code of the control as their value
(`Hex.value?_digit`), and that is no surrogate. What is written as it is, is neither the quote nor
the backslash, so the reader takes it as it is. -/
theorem pieces?_encodeChar (c : Char) (cs rest : List Char) (ps : List Piece)
    (h : pieces? cs = some (ps, rest)) :
    pieces? (encodeChar c ++ cs) = some (.char c :: ps, rest) := by
  rcases encodeChar_cases c with ⟨e, he, hc⟩ | ⟨hlt, hc⟩ | ⟨hquote, hslash, hge, hc⟩
  · have hread : ∀ p ∈ shortEscapes, p.1 ≠ 'u' ∧ short? p.1 = some p.2 := by decide
    obtain ⟨hne, hshort⟩ : e ≠ 'u' ∧ short? e = some c := hread (e, c) he
    simp [hc, pieces?, hne, hshort, h]
  · have hunit : unit? '0' '0' (Hex.digit (c.toNat / 16)) (Hex.digit c.toNat) = some c.toNat := by
      have h0 : Hex.value? '0' = some 0 := by decide
      simp only [unit?, h0, Hex.value?_digit, Option.bind_eq_bind, Option.bind_some,
        Option.some.injEq]
      omega
    have hpiece : Piece.ofUnit c.toNat = .char c := by
      have : ¬(0xD800 ≤ c.toNat ∧ c.toNat < 0xE000) := by omega
      rw [Piece.ofUnit, if_neg this, Char.ofNat_toNat]
    simp only [hc, List.cons_append, List.nil_append, pieces?, hunit, Option.bind_some, h,
      Option.map_some, hpiece]
  · have hplain : ¬(c = '\\' ∨ c.toNat < 0x20) := fun hor => hor.elim hslash (by omega)
    simp only [hc, List.cons_append, List.nil_append]
    rw [pieces?.eq_def]
    split <;> simp_all

/-- Reading undoes writing, whatever follows the closing quote. -/
theorem scan?_encode (cs rest : List Char) :
    scan? (encode cs ++ '"' :: rest) = some (⟨cs, true⟩, rest) := by
  have h : pieces? (encode cs ++ '"' :: rest) = some (cs.map .char, rest) := by
    induction cs with
    | nil => simp [encode, pieces?]
    | cons c cs ih =>
      simp only [encode, List.flatMap_cons, List.append_assoc, List.map_cons] at ih ⊢
      exact pieces?_encodeChar c _ rest _ ih
  simp [scan?, h, join_map_char]

/-- One more piece is read in front of others, and what follows is what follows on these. -/
theorem exists_pieces_of_map {found : Option (List Piece × List Char)} {p : Piece} {ps : List Piece}
    {rest : List Char}
    (h : (found.map fun (others, rest) => (p :: others, rest)) = some (ps, rest)) :
    ∃ others, found = some (others, rest) := by
  obtain ⟨⟨others, left⟩, hfound, heq⟩ := Option.map_eq_some_iff.mp h
  obtain rfl : left = rest := congrArg Prod.snd heq
  exact ⟨others, hfound⟩

/-- Reading a literal uses up some of the text.

**Proof sketch.** By the recursion of the reader. Each of its steps takes one, two or six characters
in front of what is read by the call inside it, which leaves the same rest
(`exists_pieces_of_map`). -/
theorem length_pieces? {cs rest : List Char} {ps : List Piece}
    (h : pieces? cs = some (ps, rest)) : rest.length < cs.length := by
  fun_induction pieces? cs generalizing ps rest with
  | case1 => simp at h
  | case2 => simp_all
  | case3 a b c d tail ih =>
    obtain ⟨unit, -, h⟩ := Option.bind_eq_some_iff.mp h
    obtain ⟨others, hothers⟩ := exists_pieces_of_map h
    have hlt := ih hothers
    simp only [List.length_cons]
    omega
  | case4 e tail _ ih =>
    obtain ⟨c, -, h⟩ := Option.bind_eq_some_iff.mp h
    obtain ⟨others, hothers⟩ := exists_pieces_of_map h
    have hlt := ih hothers
    simp only [List.length_cons]
    omega
  | case5 => simp at h
  | case6 c tail _ _ _ _ ih =>
    obtain ⟨others, hothers⟩ := exists_pieces_of_map h
    exact Nat.lt_succ_of_lt (ih hothers)

/-- A literal takes at least one character. -/
theorem length_scan? {cs rest : List Char} {t : Content} (h : scan? cs = some (t, rest)) :
    rest.length < cs.length := by
  obtain ⟨⟨ps, r⟩, hr, heq⟩ := Option.map_eq_some_iff.1 h
  have := length_pieces? hr
  simp only [Prod.mk.injEq] at heq
  rw [← heq.2]
  exact this

end Literal

end Json

end CertDashboard
