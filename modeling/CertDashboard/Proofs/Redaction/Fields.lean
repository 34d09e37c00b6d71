import CertDashboard.Proofs.Redaction
import Mathlib.Data.List.Forall2

set_option autoImplicit false
set_option relaxedAutoImplicit false

/-!
# What redaction shows of a line

A line is its fields with its separators between them, and it is shown field by field: the
separators as they are, and a field either as it is or up to the mark behind its key, where that
names a secret. What is shown of a line depends on nothing behind such a mark, and is shown as it is
when it is a line itself.

## Main definitions

* `CertDashboard.Redaction.Mentions` — a key names a secret.
* `CertDashboard.Redaction.Shows` — what is shown of a field.
* `CertDashboard.Redaction.Alike` — fields with no difference but in a secret.

## Main results

* `CertDashboard.Text.split_interleave` — pieces without separators are found again.
* `CertDashboard.Redaction.redactFrom_eq_interleave` — one pass shows a line field by field.
* `CertDashboard.Redaction.redact_fieldwise` — what is shown of a line, of two lines that differ in
  secrets only, and of what was shown.

## Design

`Shows` says what is shown by the parts of a field and not by how they are found. That a field has
one key and one mark, the first one, is in `append_mark_cases`.
-/

namespace CertDashboard

/-! ## Pieces -/

namespace Text

/-- A text occurs in another one as a run of it. -/
theorem occurs_iff {needle cs : List Char} : occurs needle cs = true ↔ needle <:+: cs := by
  induction cs with
  | nil => simp [occurs]
  | cons c cs ih =>
    rw [occurs, Bool.or_eq_true, ih, List.isPrefixOf_iff_prefix, List.infix_cons_iff]

variable {p : Char → Bool} {pieces : List (List Char)} {separators : List Char}

/-- **Pieces without separators are found again**, and so is what is between them.

**Proof sketch.** By the recursion of `interleave`. A piece without separators in front of one is
the first piece (`split_append`) and leaves nothing in the filter; the last piece stands alone,
since the lengths fit. -/
theorem split_interleave (hpieces : ∀ piece ∈ pieces, ∀ c ∈ piece, p c = false)
    (hseparators : ∀ c ∈ separators, p c = true) (hlength : pieces.length = separators.length + 1) :
    split p (interleave pieces separators) = pieces ∧
      (interleave pieces separators).filter p = separators := by
  fun_induction interleave pieces separators with
  | case1 => simp at hlength
  | case2 piece rest =>
    obtain rfl : rest = [] := by simpa using hlength
    have hpiece := hpieces piece List.mem_cons_self
    exact ⟨split_of_not hpiece, List.filter_eq_nil_iff.mpr (by simpa using hpiece)⟩
  | case3 piece rest c cs ih =>
    have hpiece := hpieces piece List.mem_cons_self
    have hc := hseparators c List.mem_cons_self
    obtain ⟨hsplit, hfilter⟩ := ih (fun q hq => hpieces q (List.mem_cons_of_mem piece hq))
      (fun d hd => hseparators d (List.mem_cons_of_mem c hd)) (by simpa using hlength)
    have hnone : piece.filter p = [] := List.filter_eq_nil_iff.mpr (by simpa using hpiece)
    exact ⟨by rw [split_append hpiece hc, hsplit], by simp [hnone, hc, hfilter]⟩

end Text

namespace Redaction

/-! ## Fields -/

/-- **A key names a secret**: one of the words is in it, in any case of its letters. -/
def Mentions (key : List Char) : Prop :=
  ∃ marker ∈ markers, marker <:+: key.map Char.toLower

/-- **What is shown of a field.** -/
inductive Shows : List Char → List Char → Prop where
  /-- A field without a mark is shown. -/
  | unmarked {field : List Char} : (∀ c ∈ field, isMark c = false) → Shows field field
  /-- A field is shown if its key names no secret. -/
  | harmless {key value : List Char} {mark : Char} : (∀ c ∈ key, isMark c = false) →
    isMark mark = true → ¬ Mentions key → Shows (key ++ mark :: value) (key ++ mark :: value)
  /-- Of any other field, the key and the mark are shown. -/
  | secret {key value : List Char} {mark : Char} : (∀ c ∈ key, isMark c = false) →
    isMark mark = true → Mentions key → Shows (key ++ mark :: value) (key ++ mark :: mask)

/-- **Fields with no difference but in a secret.** -/
inductive Alike : List Char → List Char → Prop where
  /-- The same field. -/
  | same (field : List Char) : Alike field field
  /-- Two values of one secret. -/
  | secret {key value value' : List Char} {mark : Char} : (∀ c ∈ key, isMark c = false) →
    isMark mark = true → Mentions key → Alike (key ++ mark :: value) (key ++ mark :: value')

/-- What makes a key secret is that it names a secret. -/
theorem isSecret_iff {key : List Char} : isSecret key = true ↔ Mentions key := by
  simp only [isSecret, List.any_eq_true, Text.occurs_iff, Mentions]

/-- A field has a mark behind its key, or none. -/
theorem append_mark_cases (field : List Char) : (∀ c ∈ field, isMark c = false) ∨
    ∃ key mark value, field = key ++ mark :: value ∧ (∀ c ∈ key, isMark c = false) ∧
      isMark mark = true := by
  induction field with
  | nil => exact .inl nofun
  | cons c field ih =>
    by_cases hc : isMark c = true
    · exact .inr ⟨[], c, field, rfl, nofun, hc⟩
    · rw [Bool.not_eq_true] at hc
      rcases ih with hnone | ⟨key, mark, value, rfl, hkey, hmark⟩
      · exact .inl (List.forall_mem_cons.mpr ⟨hc, hnone⟩)
      · exact .inr ⟨c :: key, mark, value, rfl, List.forall_mem_cons.mpr ⟨hc, hkey⟩, hmark⟩

/-- A field without a mark is kept. -/
theorem redactField_of_forall_not {field : List Char} (h : ∀ c ∈ field, isMark c = false) :
    redactField field = field := by
  have hdrop : field.dropWhile (fun c => !isMark c) = [] :=
    List.dropWhile_eq_nil_iff.mpr (by simpa using h)
  rw [redactField, hdrop]

/-- A field with a harmless key is kept. -/
theorem redactField_of_not_isSecret {key : List Char} {mark : Char}
    (hkey : ∀ c ∈ key, isMark c = false) (hmark : isMark mark = true)
    (hharmless : isSecret key = false) (value : List Char) :
    redactField (key ++ mark :: value) = key ++ mark :: value := by
  have hkey' : ∀ c ∈ key, (!isMark c) = true := fun c hc => by simp [hkey c hc]
  simp [redactField, List.dropWhile_append_of_pos hkey', List.takeWhile_append_of_pos hkey', hmark,
    hharmless]

/-- **A field is redacted to what is shown of it.** -/
theorem shows_redactField (field : List Char) : Shows field (redactField field) := by
  rcases append_mark_cases field with hnone | ⟨key, mark, value, rfl, hkey, hmark⟩
  · rw [redactField_of_forall_not hnone]
    exact .unmarked hnone
  · cases hsecret : isSecret key with
    | true =>
      rw [redactField_of_isSecret hkey hmark hsecret]
      exact .secret hkey hmark (isSecret_iff.mp hsecret)
    | false =>
      rw [redactField_of_not_isSecret hkey hmark hsecret]
      exact .harmless hkey hmark fun h => by simp [isSecret_iff.mpr h] at hsecret

/-- **Fields with no difference but in a secret are redacted to the same.** -/
theorem Alike.redactField_eq {field field' : List Char} (h : Alike field field') :
    redactField field = redactField field' := by
  cases h with
  | same => rfl
  | secret hkey hmark hsecret =>
    rw [redactField_of_isSecret hkey hmark (isSecret_iff.mpr hsecret),
      redactField_of_isSecret hkey hmark (isSecret_iff.mpr hsecret)]

/-- What is shown of a field has no difference to it but in a secret. -/
theorem Shows.alike {field shown : List Char} (h : Shows field shown) : Alike shown field := by
  cases h with
  | unmarked => exact .same _
  | harmless => exact .same _
  | secret hkey hmark hsecret => exact .secret hkey hmark hsecret

/-- What is shown of a field without separators has none. -/
theorem Shows.forall_not {field shown : List Char} (h : Shows field shown)
    (hfield : ∀ c ∈ field, isSeparator c = false) : ∀ c ∈ shown, isSeparator c = false := by
  cases h with
  | unmarked => exact hfield
  | harmless => exact hfield
  | @secret key value mark =>
    have hany : mask.any isSeparator = false := by decide
    have hmask : ∀ c ∈ mask, isSeparator c = false := by simpa using hany
    simp only [List.forall_mem_append, List.forall_mem_cons] at hfield ⊢
    exact ⟨hfield.1, hfield.2.1, hmask⟩

/-! ## Lines -/

/-- **One pass shows a line field by field.** The pass is inside of a field, and what is in front of
it in the field goes with the rest of that.

**Proof sketch.** Induction on the text, for every front. A separator ends the field, and the front
with the first piece is redacted as one; the rest begins with an empty front. Any other character is
moved from the piece to the front, which leaves the field as it is. -/
theorem redactFrom_eq_interleave (front cs : List Char) {first : List Char}
    {others : List (List Char)} (h : fields cs = first :: others) : redactFrom front cs =
      Text.interleave (redactField (front.reverse ++ first) :: others.map redactField)
        (separators cs) := by
  induction cs generalizing front first others with
  | nil =>
    obtain ⟨rfl, rfl⟩ := List.cons.inj h
    simp [redactFrom, separators, Text.interleave]
  | cons c cs ih =>
    obtain ⟨piece, rest, hcs⟩ := List.exists_cons_of_ne_nil (Text.split_ne_nil isSeparator cs)
    by_cases hc : isSeparator c = true
    · have hfields : fields (c :: cs) = [] :: piece :: rest := by
        rw [fields, Text.split, if_pos hc, hcs]
      obtain ⟨rfl, rfl⟩ := List.cons.inj (hfields.symm.trans h)
      rw [redactFrom, if_pos hc, ih [] hcs]
      simp [separators, hc, Text.interleave]
    · have hfields : fields (c :: cs) = (c :: piece) :: rest := by
        rw [fields, Text.split, if_neg hc, hcs]
      obtain ⟨rfl, rfl⟩ := List.cons.inj (hfields.symm.trans h)
      rw [redactFrom, if_neg hc, ih (c :: front) hcs]
      simp [separators, hc]

/-- **A line without its secrets is its fields without theirs**, with its separators between
them. -/
theorem toList_redact (line : String) : (redact line).toList =
    Text.interleave ((fields line.toList).map redactField) (separators line.toList) := by
  obtain ⟨first, others, hfields⟩ :=
    List.exists_cons_of_ne_nil (Text.split_ne_nil isSeparator line.toList)
  rw [redact, String.toList_ofList, redactFrom_eq_interleave [] line.toList hfields, fields,
    hfields]
  rfl

/-- The fields and the separators of a line without its secrets. -/
theorem fields_redact (line : String) :
    fields (redact line).toList = (fields line.toList).map redactField ∧
      separators (redact line).toList = separators line.toList := by
  rw [toList_redact]
  refine Text.split_interleave ?_ ?_ ?_
  · intro shown hshown
    obtain ⟨field, hfield, rfl⟩ := List.mem_map.mp hshown
    exact (shows_redactField field).forall_not (Text.not_of_mem_split hfield)
  · intro c hc
    exact (List.mem_filter.mp hc).2
  · rw [List.length_map, fields, Text.length_split, separators]

/-- Lines with no difference but in secrets are redacted to the same. -/
theorem redact_congr {line other : String}
    (hseparators : separators other.toList = separators line.toList)
    (hfields : List.Forall₂ Alike (fields other.toList) (fields line.toList)) :
    redact other = redact line := by
  have hmap : (fields other.toList).map redactField = (fields line.toList).map redactField := by
    generalize fields other.toList = fs, fields line.toList = gs at hfields
    induction hfields with
    | nil => rfl
    | cons h _ ih => rw [List.map_cons, List.map_cons, h.redactField_eq, ih]
  rw [← String.toList_inj, toList_redact, toList_redact, hmap, hseparators]

/-- **Redaction works field by field.** Of a line, the separators are shown in order, and of each
field either all of it or, if its key names a secret, what is in front of the value, with the mask
in its place. Lines with no difference but in the values of secrets are redacted to the same, and
what was redacted is kept. -/
theorem redact_fieldwise (line : String) :
    separators (redact line).toList = separators line.toList ∧
      List.Forall₂ Shows (fields line.toList) (fields (redact line).toList) ∧
      (∀ other : String, separators other.toList = separators line.toList →
        List.Forall₂ Alike (fields other.toList) (fields line.toList) →
          redact other = redact line) ∧
      redact (redact line) = redact line := by
  obtain ⟨hfields, hseparators⟩ := fields_redact line
  have hshown : List.Forall₂ Shows (fields line.toList) (fields (redact line).toList) := by
    rw [hfields, List.forall₂_map_right_iff, List.forall₂_same]
    exact fun field _ => shows_redactField field
  have hback : List.Forall₂ Alike (fields (redact line).toList) (fields line.toList) :=
    (hshown.imp fun _ _ h => h.alike).flip
  exact ⟨hseparators, hshown, fun other => redact_congr, redact_congr hseparators hback⟩

/-- Two lines with a harmless field and a token that is a different one.

**Proof sketch.** Fields and separators of both lines are computed. Their second fields are alike
since the key is secret and has no mark, so `redact_fieldwise` makes the redacted lines equal. -/
theorem redact_fieldwise_token :
    let line := "theme=dark; Doomsday-Token=s3cr3t"
    let other := "theme=dark; Doomsday-Token=open:sesame"
    separators other.toList = separators line.toList ∧
      List.Forall₂ Alike (fields other.toList) (fields line.toList) ∧
      redact other = redact line ∧ redact line = "theme=dark; Doomsday-Token=<redacted>" := by
  intro line other
  have hline : fields line.toList =
      ["theme=dark".toList, " Doomsday-Token".toList ++ '=' :: "s3cr3t".toList] := by decide
  have hother : fields other.toList =
      ["theme=dark".toList, " Doomsday-Token".toList ++ '=' :: "open:sesame".toList] := by decide
  have hany : " Doomsday-Token".toList.any isMark = false := by decide
  have hkey : ∀ c ∈ " Doomsday-Token".toList, isMark c = false := by simpa using hany
  have hsecret : Mentions " Doomsday-Token".toList := isSecret_iff.mp (by decide)
  have hseparators : separators other.toList = separators line.toList := by decide
  have halike : List.Forall₂ Alike (fields other.toList) (fields line.toList) := by
    rw [hline, hother]
    exact .cons (.same _) (.cons (.secret hkey (by decide) hsecret) .nil)
  obtain ⟨-, -, hcongr, -⟩ := redact_fieldwise line
  exact ⟨hseparators, halike, hcongr other hseparators halike, by decide⟩

end Redaction

end CertDashboard
