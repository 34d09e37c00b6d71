import CertDashboard.Json.Outline

set_option autoImplicit false
set_option relaxedAutoImplicit false

/-!
# Reading undoes writing

The compact text of a value, cut into lexemes and read one lexeme at a time, is the outline of the
value again.

## Main definitions

* `CertDashboard.Json.Number.EndsAt` — where a number ends, whatever it is.
* `CertDashboard.Json.read` — where a reader stands behind a text.

## Main results

* `CertDashboard.Json.Number.scan?_append` — a number literal is read back.
* `CertDashboard.Json.read_render` — a value is read back inside of any open containers.
* `CertDashboard.Json.Document.ofText_render` — a value is read back from its whole text.

## Design

Of all lexemes only a number has no end of its own: it ends at the first character that cannot go on
with it. In the text of a value a comma, a bracket or a brace follows each number, or nothing.
-/

namespace CertDashboard

namespace Json

/-! ## Numbers -/

/-- A run of digits is read back, if no digit follows.

**Proof sketch.** All characters of the run are digits and the first one behind it is none, so the
longest beginning of digits is the run. -/
theorem Digits.scan?_append (ds : Digits) {rest : List Char}
    (h : ∀ c ∈ rest.head?, c.isDigit = false) : Digits.scan? (ds.chars ++ rest) = some (ds, rest) := by
  have hall : ∀ c ∈ ds.chars, c.isDigit = true := List.all_eq_true.mp ds.all_isDigit
  have hrest : rest.takeWhile Char.isDigit = [] ∧ rest.dropWhile Char.isDigit = rest := by
    cases rest with
    | nil => exact ⟨rfl, rfl⟩
    | cons c rest =>
      have hc : c.isDigit = false := h c rfl
      simp [hc]
  have htake : (ds.chars ++ rest).takeWhile Char.isDigit = ds.chars := by
    rw [List.takeWhile_append_of_pos hall, hrest.1, List.append_nil]
  have hdrop : (ds.chars ++ rest).dropWhile Char.isDigit = rest := by
    rw [List.dropWhile_append_of_pos hall, hrest.2]
  have hne : (ds.chars ++ rest).takeWhile Char.isDigit ≠ [] := by
    rw [htake]
    exact ds.ne_nil
  rw [Digits.scan?, dif_pos hne]
  simp only [htake, hdrop]

/-- A run of digits starts with one. -/
theorem Digits.exists_cons (ds : Digits) : ∃ c cs, ds.chars = c :: cs ∧ c.isDigit = true := by
  rcases hchars : ds.chars with _ | ⟨c, cs⟩
  · exact absurd hchars ds.ne_nil
  · have hall := ds.all_isDigit
    rw [hchars, List.all_cons, Bool.and_eq_true] at hall
    exact ⟨c, cs, rfl, hall.1⟩

namespace Number

/-- Whether a character may go on with a number. -/
def goesOn (c : Char) : Bool :=
  c.isDigit || c == '.' || c == 'e' || c == 'E'

/-- **A number ends here**: no character that may go on with one follows. -/
def EndsAt (rest : List Char) : Prop :=
  ∀ c ∈ rest.head?, goesOn c = false

/-- No digit stands where a number ends. -/
theorem EndsAt.not_isDigit {rest : List Char} (h : EndsAt rest) {c : Char} (hc : c ∈ rest.head?) :
    c.isDigit = false := by
  have hc := h c hc
  simp only [goesOn, Bool.or_eq_false_iff] at hc
  exact hc.1.1.1

/-- A number ends with the text. -/
theorem endsAt_nil : EndsAt [] := nofun

/-- A number ends at a character that cannot go on with one. -/
theorem endsAt_cons {c : Char} (h : goesOn c = false) (rest : List Char) : EndsAt (c :: rest) := by
  intro d hd
  obtain rfl : c = d := by simpa using hd
  exact h

/-- The text of a sign, if there is one. -/
def signText : Option Bool → List Char
  | none => []
  | some true => ['-']
  | some false => ['+']

/-- The text of a fraction, if there is one. -/
def fractionText (fraction : Option Digits) : List Char :=
  fraction.elim [] fun ds => '.' :: ds.chars

/-- The text of an exponent, if there is one. -/
def exponentText (exponent : Option Exponent) : List Char :=
  exponent.elim [] fun e => (if e.capital then 'E' else 'e') :: (signText e.sign ++ e.digits.chars)

/-- The text of a literal, part by part. -/
theorem render_eq (n : Number) : n.render = (if n.negative then ['-'] else []) ++
    (n.whole.chars ++ (fractionText n.fraction ++ exponentText n.exponent)) := by
  obtain ⟨negative, whole, fraction, exponent, canonical⟩ := n
  have hexponent : ∀ e : Exponent, e.render = exponentText (some e) := by
    rintro ⟨capital, sign, digits⟩
    rcases sign with _ | _ | _ <;> rfl
  rcases fraction with _ | ds <;> rcases exponent with _ | e <;>
    simp [render, fractionText, hexponent, exponentText]

/-- A run of digits starts with no sign. -/
theorem scanSign_chars (ds : Digits) (rest : List Char) :
    scanSign (ds.chars ++ rest) = (none, ds.chars ++ rest) := by
  obtain ⟨c, cs, hchars, hc⟩ := ds.exists_cons
  rw [hchars, List.cons_append]
  unfold scanSign
  split
  · next heq =>
    obtain rfl : c = '-' := (List.cons.inj heq).1
    exact absurd hc (by decide)
  · next heq =>
    obtain rfl : c = '+' := (List.cons.inj heq).1
    exact absurd hc (by decide)
  · rfl

/-- The sign of an exponent is read back. -/
theorem scanSign_append (sign : Option Bool) (ds : Digits) (rest : List Char) :
    scanSign (signText sign ++ (ds.chars ++ rest)) = (sign, ds.chars ++ rest) := by
  rcases sign with _ | _ | _
  · exact scanSign_chars ds rest
  · rfl
  · rfl

/-- An exponent is read back, if no number goes on behind it. -/
theorem scanExponent?_append (exponent : Option Exponent) {rest : List Char} (h : EndsAt rest) :
    scanExponent? (exponentText exponent ++ rest) = some (exponent, rest) := by
  rcases exponent with _ | ⟨capital, sign, ds⟩
  · cases rest with
    | nil => rfl
    | cons c rest =>
      have hc : goesOn c = false := h c rfl
      simp only [goesOn, Bool.or_eq_false_iff, beq_eq_false_iff_ne] at hc
      simp [exponentText, scanExponent?, hc.1.2, hc.2]
  · have hdigits : Digits.scan? (ds.chars ++ rest) = some (ds, rest) :=
      ds.scan?_append fun c hc => (h.not_isDigit hc)
    cases capital <;>
      simp [exponentText, scanExponent?, scanSign_append, hdigits]

/-- A fraction is read back, if neither a digit nor a point follows. -/
theorem scanFraction?_append (fraction : Option Digits) {rest : List Char}
    (h : ∀ c ∈ rest.head?, c.isDigit = false ∧ c ≠ '.') :
    scanFraction? (fractionText fraction ++ rest) = some (fraction, rest) := by
  rcases fraction with _ | ds
  · show scanFraction? rest = some (none, rest)
    unfold scanFraction?
    split
    · next tail => exact absurd rfl (h '.' rfl).2
    · rfl
  · simp [fractionText, scanFraction?, ds.scan?_append fun c hc => (h c hc).1]

/-- The minus sign of a literal is read back.

**Proof sketch.** With the sign this is computed. Without it the text starts with a digit, which is
not the minus sign that `scanMinus` looks for. -/
theorem scanMinus_append (negative : Bool) (ds : Digits) (rest : List Char) :
    scanMinus ((if negative then ['-'] else []) ++ (ds.chars ++ rest)) =
      (negative, ds.chars ++ rest) := by
  cases negative with
  | true => rfl
  | false =>
    obtain ⟨c, cs, hchars, hc⟩ := ds.exists_cons
    rw [hchars]
    show scanMinus (c :: (cs ++ rest)) = (false, c :: (cs ++ rest))
    unfold scanMinus
    split
    · next heq =>
      obtain rfl : c = '-' := (List.cons.inj heq).1
      exact absurd hc (by decide)
    · rfl

/-- An exponent starts neither with a digit nor with a point, and nor does what follows a number.

**Proof sketch.** With no exponent the first character is that of what follows, where the number
ends. Otherwise it is one of the two letters of an exponent. -/
theorem head?_exponentText (exponent : Option Exponent) {rest : List Char} (h : EndsAt rest) :
    ∀ c ∈ (exponentText exponent ++ rest).head?, c.isDigit = false ∧ c ≠ '.' := by
  rcases exponent with _ | ⟨capital, sign, ds⟩
  · intro c hc
    have hc := h c hc
    simp only [goesOn, Bool.or_eq_false_iff, beq_eq_false_iff_ne] at hc
    exact ⟨hc.1.1.1, hc.1.1.2⟩
  · intro c hc
    cases capital with
    | true =>
      obtain rfl : 'E' = c := by simpa [exponentText] using hc
      decide
    | false =>
      obtain rfl : 'e' = c := by simpa [exponentText] using hc
      decide

/-- **A literal is read back**, if no number goes on behind it.

**Proof sketch.** Each part is scanned up to its end: the sign, the whole part, whose next character
is the point or that of the exponent, the fraction, and the exponent (`scanMinus_append`,
`Digits.scan?_append`, `scanFraction?_append`, `scanExponent?_append`). The literal is canonical by
its type. -/
theorem scan?_append (n : Number) {rest : List Char} (h : EndsAt rest) :
    scan? (n.render ++ rest) = some (n, rest) := by
  have hexponent := head?_exponentText n.exponent h
  have hwhole : ∀ c ∈ (fractionText n.fraction ++ (exponentText n.exponent ++ rest)).head?,
      c.isDigit = false := by
    intro c hc
    rcases hfraction : n.fraction with _ | ds
    · rw [hfraction] at hc
      exact (hexponent c hc).1
    · obtain rfl : '.' = c := by simpa [fractionText, hfraction] using hc
      decide
  rw [render_eq]
  simp only [List.append_assoc, scan?, scanMinus_append, n.whole.scan?_append hwhole,
    scanFraction?_append n.fraction hexponent, scanExponent?_append n.exponent h,
    Option.bind_eq_bind, Option.bind_some, dif_pos n.canonical]

end Number

/-! ## Lexemes -/

/-- **Where a reader stands behind a text.** -/
def read (p : Progress) (cs : List Char) : Progress :=
  (Lexeme.scan cs).foldl Progress.step p

/-- One lexeme is read, and then the others. -/
theorem read_next {cs rest : List Char} {l : Lexeme} (hblank : cs.head?.all Lexeme.isBlank = false)
    (h : Lexeme.next? cs = some (l, rest)) (p : Progress) : read p cs = read (p.step l) rest := by
  rw [read, Lexeme.scan_next hblank h]
  rfl

/-- A text as a whole is where a reader stands behind it. -/
theorem ofText_eq (cs : List Char) :
    Document.ofText cs = ⟨(read (.value []) cs).outline, (read (.value []) cs).isClean⟩ := rfl

/-- A string is one lexeme. -/
theorem read_string (p : Progress) (s : String) (rest : List Char) :
    read p (renderString s ++ rest) = read (p.step (.string (.ofString s))) rest := by
  refine read_next rfl ?_ p
  have hscan : Literal.scan? (Literal.encode s.toList ++ '"' :: rest) =
      some (.ofString s, rest) := Literal.scan?_encode s.toList rest
  simp [renderString, Lexeme.next?, hscan]

/-- A text that starts with a digit or with a minus sign starts with a number, if with anything.

**Proof sketch.** The first character is none of those that `Lexeme.next?` has a case for, since
they are neither digits nor the minus sign. So the last case is the one that applies. -/
theorem next?_number {c : Char} (h : c = '-' ∨ c.isDigit = true) (cs : List Char) :
    Lexeme.next? (c :: cs) = (Number.scan? (c :: cs)).map fun (n, rest) => (.number n, rest) := by
  have hne : ∀ d : Char, d ≠ '-' → d.isDigit = false → c ≠ d := by
    rintro d hminus hdigit rfl
    rcases h with h | h
    · exact hminus h
    · exact absurd (hdigit.symm.trans h) (by simp)
  unfold Lexeme.next?
  split
  case h_1 heq => cases heq
  case h_12 => rfl
  all_goals
    rename_i heq
    injection heq with hchar _
    exact absurd hchar (hne _ (by decide) (by decide))

/-- A number is one lexeme, if no number goes on behind it.

**Proof sketch.** The literal starts with its sign or with a digit, so no blank is skipped in
front of it and the next lexeme is a number (`next?_number`). That one is scanned whole
(`scan?_append`). -/
theorem read_number (p : Progress) (n : Number) {rest : List Char} (h : Number.EndsAt rest) :
    read p (n.render ++ rest) = read (p.step (.number n)) rest := by
  obtain ⟨c, cs, hrender, hc⟩ : ∃ c cs, n.render = c :: cs ∧ (c = '-' ∨ c.isDigit = true) := by
    obtain ⟨d, ds, hchars, hd⟩ := n.whole.exists_cons
    rw [Number.render_eq, hchars]
    cases n.negative with
    | true => exact ⟨'-', _, rfl, .inl rfl⟩
    | false => exact ⟨d, _, rfl, .inr hd⟩
  have hscan := n.scan?_append h
  rw [hrender] at hscan ⊢
  refine read_next ?_ ?_ p
  · rcases hc with rfl | hc
    · rfl
    · have hblank : Lexeme.isBlank c = false := by
        rcases hblank : Lexeme.isBlank c with _ | _
        · rfl
        · simp only [Lexeme.isBlank, Bool.or_eq_true, beq_iff_eq] at hblank
          rcases hblank with ((rfl | rfl) | rfl) | rfl <;> exact absurd hc (by decide)
      simpa using hblank
  · rw [List.cons_append] at hscan ⊢
    rw [next?_number hc, hscan]
    rfl

/-- A mark is one lexeme. -/
theorem read_mark (c : Char) (l : Lexeme) (hblank : Lexeme.isBlank c = false)
    (h : ∀ rest, Lexeme.next? (c :: rest) = some (l, rest)) (p : Progress) (rest : List Char) :
    read p (c :: rest) = read (p.step l) rest := by
  refine read_next ?_ (h rest) p
  simpa using hblank

/-- The word `null` is one lexeme. -/
theorem read_null (p : Progress) (rest : List Char) :
    read p (Json.null.render ++ rest) = read (p.step .null) rest :=
  read_next rfl rfl p

/-- A truth value is one lexeme. -/
theorem read_bool (p : Progress) (b : Bool) (rest : List Char) :
    read p ((Json.bool b).render ++ rest) = read (p.step (.bool b)) rest := by
  cases b <;> exact read_next rfl rfl p

/-! ## Values -/

open Progress

/-- The text of a value starts with a lexeme that is no closing bracket. -/
theorem exists_first (v : Json) {rest : List Char} (h : Number.EndsAt rest) :
    ∃ l tail, l ≠ .closeArray ∧ ∀ p, read p (v.render ++ rest) = read (p.step l) tail := by
  cases v with
  | null => exact ⟨.null, rest, by simp, fun p => read_null p rest⟩
  | bool b => exact ⟨.bool b, rest, by simp, fun p => read_bool p b rest⟩
  | number n => exact ⟨.number n, rest, by simp, fun p => read_number p n h⟩
  | string s => exact ⟨.string (.ofString s), rest, by simp, fun p => read_string p s rest⟩
  | array elements =>
    exact ⟨.openArray, renderElements elements ++ [']'] ++ rest, by simp,
      fun p => read_mark '[' .openArray rfl (fun _ => rfl) p _⟩
  | object members =>
    exact ⟨.openObject, renderMembers members ++ ['\x7d'] ++ rest, by simp,
      fun p => read_mark '\x7b' .openObject rfl (fun _ => rfl) p _⟩

/-- Behind an opening bracket a value is read as one that is due. -/
theorem read_arrayStart (v : Json) {rest : List Char} (h : Number.EndsAt rest)
    (frames : List Frame) : read (.arrayStart frames) (v.render ++ rest) =
      read (.value (.array [] :: frames)) (v.render ++ rest) := by
  obtain ⟨l, tail, hl, hread⟩ := exists_first v h
  rw [hread, hread]
  cases l <;> first | rfl | exact absurd rfl hl

/-- No number goes on behind the first element of several. -/
theorem exists_renderElements (v : Json) (vs : List Json) (rest : List Char) : ∃ tail,
    renderElements (v :: vs) ++ ']' :: rest = v.render ++ tail ∧ Number.EndsAt tail := by
  cases vs with
  | nil => exact ⟨']' :: rest, rfl, Number.endsAt_cons rfl _⟩
  | cons w vs =>
    refine ⟨',' :: (renderElements (w :: vs) ++ ']' :: rest), ?_, Number.endsAt_cons rfl _⟩
    rw [renderElements, List.append_assoc, List.cons_append]

/-- Behind an opening brace a member is read as one behind a comma. -/
theorem read_objectStart (m : String × Json) (ms : List (String × Json)) (rest : List Char)
    (frames : List Frame) : read (.objectStart frames) (renderMembers (m :: ms) ++ rest) =
      read (.objectKey frames []) (renderMembers (m :: ms) ++ rest) := by
  obtain ⟨k, v⟩ := m
  obtain ⟨tail, htail⟩ : ∃ tail, renderMembers ((k, v) :: ms) ++ rest = renderString k ++ tail := by
    cases ms with
    | nil => exact ⟨_, by rw [renderMembers, List.append_assoc]⟩
    | cons m ms =>
      refine ⟨':' :: v.render ++ (',' :: renderMembers (m :: ms) ++ rest), ?_⟩
      rw [renderMembers, List.append_assoc, List.append_assoc]
  rw [htail, read_string, read_string]
  rfl

mutual

/-- **A value is read back**, inside of any open containers, if no number goes on behind it.

**Proof sketch.** By recursion on the value, together with the elements and the members of
containers. An atom is one lexeme. A container opens with its mark, and what stands between that and
the closing one is read by `read_renderElements` or `read_renderMembers`, or is empty. -/
theorem read_render : ∀ (v : Json) {rest : List Char}, Number.EndsAt rest →
    ∀ frames, read (.value frames) (v.render ++ rest) = read (deliver v.outline frames) rest
  | .null, rest, _, _ => read_null _ rest
  | .bool b, rest, _, _ => read_bool _ b rest
  | .number n, _, h, _ => read_number _ n h
  | .string s, rest, _, _ => read_string _ s rest
  | .array elements, rest, _, frames => by
    have hopen : read (.value frames) ((Json.array elements).render ++ rest) =
        read (.arrayStart frames) (renderElements elements ++ ']' :: rest) := by
      rw [render, List.append_assoc]
      exact read_mark '[' .openArray rfl (fun _ => rfl) _ _
    rw [hopen]
    cases elements with
    | nil => exact read_mark ']' .closeArray rfl (fun _ => rfl) _ _
    | cons v vs =>
      obtain ⟨tail, htail, hends⟩ := exists_renderElements v vs rest
      rw [htail, read_arrayStart v hends, ← htail]
      exact read_renderElements v vs rest frames []
  | .object members, rest, _, frames => by
    have hopen : read (.value frames) ((Json.object members).render ++ rest) =
        read (.objectStart frames) (renderMembers members ++ '\x7d' :: rest) := by
      rw [render, List.append_assoc]
      exact read_mark '\x7b' .openObject rfl (fun _ => rfl) _ _
    rw [hopen]
    cases members with
    | nil => exact read_mark '\x7d' .closeObject rfl (fun _ => rfl) _ _
    | cons m ms =>
      rw [read_objectStart]
      exact read_renderMembers m ms rest frames []
  termination_by v => sizeOf v

/-- Elements are read back, behind those that were read before, up to the closing bracket.

**Proof sketch.** By recursion on the elements. One of them is read with the array as its frame
(`read_render`), behind it comes the closing bracket or a comma, and the outlines that are done are
kept in reverse. -/
theorem read_renderElements : ∀ (v : Json) (vs : List Json) (rest : List Char)
    (frames : List Frame) (done : List Outline),
    read (.value (.array done :: frames)) (renderElements (v :: vs) ++ ']' :: rest) =
      read (deliver (.array (done.reverse ++ outlines (v :: vs)) true) frames) rest
  | v, [], rest, frames, done => by
    have hclose : read (.arrayNext frames (v.outline :: done)) (']' :: rest) =
        read (deliver (.array (v.outline :: done).reverse true) frames) rest :=
      read_mark ']' .closeArray rfl (fun _ => rfl) _ _
    rw [renderElements, read_render v (Number.endsAt_cons rfl rest), deliver, hclose,
      List.reverse_cons]
    rfl
  | v, w :: vs, rest, frames, done => by
    have hcomma : read (.arrayNext frames (v.outline :: done))
        (',' :: (renderElements (w :: vs) ++ ']' :: rest)) =
          read (.value (.array (v.outline :: done) :: frames))
            (renderElements (w :: vs) ++ ']' :: rest) :=
      read_mark ',' .comma rfl (fun _ => rfl) _ _
    rw [renderElements, List.append_assoc, List.cons_append,
      read_render v (Number.endsAt_cons rfl _), deliver, hcomma, read_renderElements w vs,
      List.reverse_cons, List.append_assoc]
    rfl
  termination_by v vs => sizeOf (v :: vs)

/-- Members are read back, behind those that were read before, up to the closing brace.

**Proof sketch.** By recursion on the members. The key is a literal, the colon leads to the value,
which is read with the object as its frame (`read_render`), and behind it comes the closing brace or
a comma. -/
theorem read_renderMembers : ∀ (m : String × Json) (ms : List (String × Json))
    (rest : List Char) (frames : List Frame) (done : List (Content × Outline)),
    read (.objectKey frames done) (renderMembers (m :: ms) ++ '\x7d' :: rest) =
      read (deliver (.object (done.reverse ++ memberOutlines (m :: ms)) true) frames) rest
  | (k, v), [], rest, frames, done => by
    have hcolon : read (.objectColon frames done (.ofString k)) (':' :: (v.render ++ '\x7d' :: rest))
        = read (.value (.object done (.ofString k) :: frames)) (v.render ++ '\x7d' :: rest) :=
      read_mark ':' .colon rfl (fun _ => rfl) _ _
    have hclose : read (.objectNext frames ((.ofString k, v.outline) :: done)) ('\x7d' :: rest) =
        read (deliver (.object ((.ofString k, v.outline) :: done).reverse true) frames) rest :=
      read_mark '\x7d' .closeObject rfl (fun _ => rfl) _ _
    rw [renderMembers, List.append_assoc, List.cons_append, read_string, step, hcolon,
      read_render v (Number.endsAt_cons rfl rest), deliver, hclose, List.reverse_cons]
    rfl
  | (k, v), m :: ms, rest, frames, done => by
    have hcolon : read (.objectColon frames done (.ofString k))
        (':' :: (v.render ++ ',' :: (renderMembers (m :: ms) ++ '\x7d' :: rest))) =
          read (.value (.object done (.ofString k) :: frames))
            (v.render ++ ',' :: (renderMembers (m :: ms) ++ '\x7d' :: rest)) :=
      read_mark ':' .colon rfl (fun _ => rfl) _ _
    have hcomma : read (.objectNext frames ((.ofString k, v.outline) :: done))
        (',' :: (renderMembers (m :: ms) ++ '\x7d' :: rest)) =
          read (.objectKey frames ((.ofString k, v.outline) :: done))
            (renderMembers (m :: ms) ++ '\x7d' :: rest) :=
      read_mark ',' .comma rfl (fun _ => rfl) _ _
    rw [renderMembers, List.append_assoc, List.cons_append, List.append_assoc, List.cons_append,
      read_string, step, hcolon, read_render v (Number.endsAt_cons rfl _), deliver, hcomma,
      read_renderMembers m ms, List.reverse_cons, List.append_assoc]
    rfl
  termination_by m ms => sizeOf (m :: ms)

end

/-- **Reading undoes writing**: the text of a value is read as its outline, to the end. -/
theorem Document.ofText_render (v : Json) : Document.ofText v.render = ⟨v.outline, true⟩ := by
  have hread := read_render v Number.endsAt_nil []
  rw [List.append_nil] at hread
  rw [ofText_eq, hread]
  simp only [read, Lexeme.scan_nil, List.foldl_nil, deliver, Progress.outline]
  rfl

end Json

end CertDashboard
