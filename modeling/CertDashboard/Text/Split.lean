set_option autoImplicit false
set_option relaxedAutoImplicit false

/-!
# Pieces of a text

## Main definitions

* `CertDashboard.Text.split` — the pieces of a text between the characters of a class.
* `CertDashboard.Text.interleave` — pieces with characters between them.
* `CertDashboard.Text.occurs` — whether a text occurs in another one.

## Main results

* `CertDashboard.Text.length_split` — there is one more piece than there are separators.
* `CertDashboard.Text.interleave_split` — a text is its pieces with its separators between them.
* `CertDashboard.Text.not_of_mem_split` — no piece has a separator in it.
* `CertDashboard.Text.split_append` — a piece ends where a separator follows.
-/

namespace CertDashboard

namespace Text

/-- **The pieces of a text** between the characters of a class. -/
def split (p : Char → Bool) : List Char → List (List Char)
  | [] => [[]]
  | c :: rest =>
    if p c then [] :: split p rest
    else
      match split p rest with
      | [] => [[c]]
      | piece :: others => (c :: piece) :: others

/-- **Pieces with characters between them.** -/
def interleave : List (List Char) → List Char → List Char
  | [], _ => []
  | piece :: _, [] => piece
  | piece :: rest, c :: cs => piece ++ c :: interleave rest cs

/-- **Whether a text occurs in another one.** -/
def occurs (needle : List Char) : List Char → Bool
  | [] => needle.isEmpty
  | c :: rest => needle.isPrefixOf (c :: rest) || occurs needle rest

/-- There is one more piece than there are separators. -/
theorem length_split (p : Char → Bool) (cs : List Char) :
    (split p cs).length = (cs.filter p).length + 1 := by
  induction cs with
  | nil => rfl
  | cons c cs ih =>
    by_cases h : p c = true
    · simp [split, h, ih]
    · rw [split, if_neg h, List.filter_cons_of_neg h, ← ih]
      cases hs : split p cs with
      | nil => simp [hs] at ih
      | cons piece others => rfl

/-- There is always a field, be it empty. -/
theorem split_ne_nil (p : Char → Bool) (cs : List Char) : split p cs ≠ [] := by
  intro h
  have := length_split p cs
  simp [h] at this

/-- A text is its pieces with its separators between them.

**Proof sketch.** Induction on the text. A separator begins a new piece, and is the next of the
separators that are left. Any other character goes to the front of the first piece; where that piece
ends depends on whether a separator is left, so the last step looks at the filtered text. -/
theorem interleave_split (p : Char → Bool) (cs : List Char) :
    interleave (split p cs) (cs.filter p) = cs := by
  induction cs with
  | nil => rfl
  | cons c cs ih =>
    by_cases h : p c = true
    · simp [split, h, interleave, ih]
    · rw [split, if_neg h, List.filter_cons_of_neg h]
      cases hs : split p cs with
      | nil => exact absurd hs (split_ne_nil p cs)
      | cons piece others =>
        rw [hs] at ih
        cases hf : cs.filter p with
        | nil =>
          rw [hf] at ih
          simp only [interleave] at ih ⊢
          rw [ih]
        | cons d ds =>
          rw [hf] at ih
          simp only [interleave, List.cons_append] at ih ⊢
          rw [ih]

/-- No piece has a separator in it.

**Proof sketch.** Induction on the text, for every piece. A separator only adds an empty piece.
Another character goes to the first piece, where it is itself no separator and the rest was a piece
of the shorter text; the other pieces are the ones of that text. -/
theorem not_of_mem_split {p : Char → Bool} {cs piece : List Char} (h : piece ∈ split p cs) :
    ∀ c ∈ piece, p c = false := by
  induction cs generalizing piece with
  | nil =>
    simp only [split, List.mem_singleton] at h
    simp [h]
  | cons c cs ih =>
    by_cases hc : p c = true
    · simp only [split, hc, if_true, List.mem_cons] at h
      rcases h with rfl | h
      · simp
      · exact ih h
    · rw [split, if_neg hc] at h
      cases hs : split p cs with
      | nil => exact absurd hs (split_ne_nil p cs)
      | cons first others =>
        rw [hs] at h ih
        simp only [List.mem_cons] at h
        rcases h with rfl | h
        · intro d hd
          rcases List.mem_cons.1 hd with rfl | hd
          · simpa using hc
          · exact ih (by simp) d hd
        · exact ih (by simp [h])

/-- A text without separators is one piece. -/
theorem split_of_not {p : Char → Bool} {cs : List Char} (h : ∀ c ∈ cs, p c = false) :
    split p cs = [cs] := by
  induction cs with
  | nil => rfl
  | cons c cs ih =>
    have hc : p c = false := h c (by simp)
    simp [split, hc, ih fun d hd => h d (by simp [hd])]

/-- A piece ends where a separator follows. -/
theorem split_append {p : Char → Bool} {piece : List Char} (h : ∀ c ∈ piece, p c = false) {c : Char}
    (hc : p c = true) (rest : List Char) :
    split p (piece ++ c :: rest) = piece :: split p rest := by
  induction piece with
  | nil => simp [split, hc]
  | cons d piece ih =>
    have hd : p d = false := h d (by simp)
    simp [split, hd, ih fun e he => h e (by simp [he])]

end Text

end CertDashboard
