set_option autoImplicit false
set_option relaxedAutoImplicit false

/-!
# Blank characters

The white space of the Unicode standard, and the two ends of a text without it.

## Main definitions

* `CertDashboard.Text.isBlank` — the property `White_Space`.
* `CertDashboard.Text.trim` — a text without the blanks at its two ends.

## Main results

* `CertDashboard.Text.trimChars_trimChars` — trimming twice is trimming once.
-/

namespace CertDashboard

namespace Text

/-- **Blank**: the characters with the Unicode property `White_Space`. The zero-width space and
the byte order mark do not have it. -/
def isBlank (c : Char) : Bool :=
  let n := c.toNat
  (0x09 ≤ n && n ≤ 0x0D) || n == 0x20 || n == 0x85 || n == 0xA0 || n == 0x1680 ||
    (0x2000 ≤ n && n ≤ 0x200A) || n == 0x2028 || n == 0x2029 || n == 0x202F || n == 0x205F ||
    n == 0x3000

/-- The blanks at the end of a list of characters are dropped. -/
def trimEnd (cs : List Char) : List Char :=
  (cs.reverse.dropWhile isBlank).reverse

/-- The blanks at both ends of a list of characters are dropped. -/
def trimChars (cs : List Char) : List Char :=
  trimEnd (cs.dropWhile isBlank)

/-- **Trim**: a text without the blanks at its two ends. -/
def trim (s : String) : String :=
  String.ofList (trimChars s.toList)

/-- Trimming a text trims its characters. -/
@[simp] theorem toList_trim (s : String) : (trim s).toList = trimChars s.toList := by
  simp [trim]

/-- A list that is dropped to has no leading element of the class. -/
theorem dropWhile_idem {α : Type} (p : α → Bool) (l : List α) :
    (l.dropWhile p).dropWhile p = l.dropWhile p := by
  induction l with
  | nil => rfl
  | cons a l ih =>
    by_cases h : p a = true
    · simp [h, ih]
    · simp [h]

/-- Dropping blanks from the end twice is dropping them once. -/
theorem trimEnd_trimEnd (cs : List Char) : trimEnd (trimEnd cs) = trimEnd cs := by
  simp [trimEnd, dropWhile_idem]

/-- What is left after dropping blanks from the end is an initial piece. -/
theorem trimEnd_append_exists (cs : List Char) : ∃ tail, trimEnd cs ++ tail = cs := by
  refine ⟨(cs.reverse.takeWhile isBlank).reverse, ?_⟩
  rw [trimEnd, ← List.reverse_append, List.takeWhile_append_dropWhile, List.reverse_reverse]

/-- A text that starts with no blank keeps its first character when its end is trimmed.

**Proof sketch.** The trimmed text is the text without some end (`trimEnd_append_exists`). Were its
first character a blank, then that would be the first one of the text too, and dropping the blanks
would make the text shorter, against the hypothesis. -/
theorem dropWhile_trimEnd {cs : List Char} (h : cs.dropWhile isBlank = cs) :
    (trimEnd cs).dropWhile isBlank = trimEnd cs := by
  obtain ⟨tail, htail⟩ := trimEnd_append_exists cs
  cases hd : trimEnd cs with
  | nil => rfl
  | cons c rest =>
    have hc : isBlank c = false := by
      cases hb : isBlank c with
      | false => rfl
      | true =>
        have hlen := congrArg List.length h
        rw [← htail, hd] at hlen
        simp only [List.cons_append, List.dropWhile_cons, hb, if_true, List.length_cons] at hlen
        have := (List.dropWhile_sublist (p := isBlank) (l := rest ++ tail)).length_le
        omega
    simp [hc]

/-- Trimming twice is trimming once. -/
theorem trimChars_trimChars (cs : List Char) : trimChars (trimChars cs) = trimChars cs := by
  have h := dropWhile_trimEnd (dropWhile_idem isBlank cs)
  rw [trimChars, trimChars, h, trimEnd_trimEnd]

end Text

end CertDashboard
