import CertDashboard.Cookie
import Mathlib.Data.List.TakeWhile

set_option autoImplicit false
set_option relaxedAutoImplicit false

/-!
# The machine and the grammar

A cookie is looked up by a machine that takes one character at a time and keeps what it has read of
one pair. The grammar knows nothing of states: it cuts the string into pieces and reads a pair in
each of them. Both find the same value, whatever the string is.

## Main definitions

* `CertDashboard.Cookie.valueOf` — the value of the first pair of a name.
* `CertDashboard.Cookie.ends` — where the machine stands at the end of each piece.

## Main results

* `CertDashboard.Cookie.lookupFrom_eq_findSome?` — the machine judges one piece after another.
* `CertDashboard.Cookie.pair?_foldl_name`, `CertDashboard.Cookie.pair?_foldl_blank` — what it has
  read of a piece is the pair of that piece.
* `CertDashboard.Cookie.lookup_eq_valueOf_pairs` — it finds the first pair of the name.

## Design

A semicolon is the only character that a state does not decide about. So the machine over the whole
string is the same machine over its pieces, started anew behind each semicolon, and what a piece
means is asked of `State.step` alone.
-/

namespace CertDashboard

namespace Cookie

/-- **The value of the first pair of a name.** -/
def valueOf (name : List Char) (ps : List (List Char × List Char)) : Option (List Char) :=
  (ps.find? fun pair => pair.1 == name).map Prod.snd

/-! ## One piece after another -/

/-- **Where the machine stands at the end of each piece.** It enters the first one in a given state,
and all others behind a semicolon. -/
def ends (s : State) : List (List Char) → List State
  | [] => []
  | first :: others => first.foldl State.step s :: others.map (·.foldl State.step .blank)

/-- **The machine judges one piece after another**, and stops at the first whose pair has the name
that is looked for.

**Proof sketch.** Induction on the text, for every state of the machine. At a semicolon the state is
judged, and the rest is read as pieces of their own from the state behind a semicolon. Any other
character is a step of the first piece, whose end is then judged as one. -/
theorem lookupFrom_eq_findSome? (name : List Char) (s : State) (cs : List Char) :
    lookupFrom name s cs =
      (ends s (Text.split (· == ';') cs)).findSome? fun t => valueFor name t.pair? := by
  induction cs generalizing s with
  | nil => cases hvalue : valueFor name s.pair? <;> simp [lookupFrom, Text.split, ends, hvalue]
  | cons c cs ih =>
    obtain ⟨first, others, hsplit⟩ := List.exists_cons_of_ne_nil (Text.split_ne_nil (· == ';') cs)
    by_cases hc : c = ';'
    · have hpieces : Text.split (· == ';') (c :: cs) = [] :: first :: others := by
        simp [Text.split, hc, hsplit]
      rw [lookupFrom, if_pos hc, hpieces, ih .blank, hsplit]
      cases hvalue : valueFor name s.pair? <;> simp [ends, hvalue]
    · have hpieces : Text.split (· == ';') (c :: cs) = (c :: first) :: others := by
        simp [Text.split, hc, hsplit]
      rw [lookupFrom, if_neg hc, hpieces, ih (s.step c), hsplit]
      rfl

/-! ## One piece -/

/-- Behind an equals sign all that follows is the value. -/
theorem pair?_foldl_value (key text piece : List Char) :
    (piece.foldl State.step (.value key text)).pair? =
      some (key.reverse, text.reverse ++ piece) := by
  induction piece generalizing text with
  | nil => simp [State.pair?]
  | cons c piece ih =>
    rw [List.foldl_cons, State.step, ih, List.reverse_cons, List.append_assoc, List.singleton_append]

/-- In front of the first equals sign stands the name. -/
theorem takeWhile_append_equals {name : List Char} (h : '=' ∉ name) (rest : List Char) :
    (name ++ '=' :: rest).takeWhile (· ≠ '=') = name := by
  have hall : ∀ c ∈ name, decide (c ≠ '=') = true := fun c hc =>
    decide_eq_true fun heq => h (heq ▸ hc)
  rw [List.takeWhile_append_of_pos hall]
  simp

/-- Behind the name stands the first equals sign. -/
theorem dropWhile_append_equals {name : List Char} (h : '=' ∉ name) (rest : List Char) :
    (name ++ '=' :: rest).dropWhile (· ≠ '=') = '=' :: rest := by
  have hall : ∀ c ∈ name, decide (c ≠ '=') = true := fun c hc =>
    decide_eq_true fun heq => h (heq ▸ hc)
  rw [List.dropWhile_append_of_pos hall]
  simp

/-- A piece with an equals sign is cut there. -/
theorem pair?_append {key : List Char} (h : '=' ∉ key) (value : List Char) :
    pair? (key ++ '=' :: value) = some (key, value) := by
  have hne : key ++ '=' :: value ≠ [] := List.append_ne_nil_of_right_ne_nil _ (by simp)
  rw [pair?, if_neg hne, dropWhile_append_equals h, takeWhile_append_equals h]

/-- A piece without an equals sign is a value with an empty name, if there is anything in it. -/
theorem pair?_of_notMem {piece : List Char} (h : '=' ∉ piece) :
    pair? piece = if piece = [] then none else some ([], piece) := by
  have hdrop : piece.dropWhile (· ≠ '=') = [] :=
    List.dropWhile_eq_nil_iff.mpr fun c hc => decide_eq_true fun heq => h (heq ▸ hc)
  rw [pair?, hdrop]

/-- **What is read of a piece** is its pair; a part of it may have been read before.

**Proof sketch.** Induction on the piece, for every name that has been read so far, the latest
character first. The first equals sign ends the name, and what is behind it is the value
(`pair?_foldl_value`); any other character is put to the name. -/
theorem pair?_foldl_name {key : List Char} (h : '=' ∉ key) (piece : List Char) :
    (piece.foldl State.step (.name key)).pair? = pair? (key.reverse ++ piece) := by
  induction piece generalizing key with
  | nil =>
    have hreverse : '=' ∉ key.reverse := by simpa using h
    rw [List.append_nil, pair?_of_notMem hreverse]
    cases key <;> simp [State.pair?]
  | cons c piece ih =>
    by_cases hc : c = '='
    · have hreverse : '=' ∉ key.reverse := by simpa using h
      rw [List.foldl_cons, State.step, if_pos hc, pair?_foldl_value, hc, pair?_append hreverse]
      rfl
    · have hcons : '=' ∉ c :: key := List.not_mem_cons_of_ne_of_not_mem (Ne.symm hc) h
      rw [List.foldl_cons, State.step, if_neg hc, ih hcons, List.reverse_cons, List.append_assoc,
        List.singleton_append]

/-- **What is read of a piece behind a semicolon** is its pair without the blanks in front.

**Proof sketch.** Induction on the piece. A blank leaves the machine where it is, and the blanks in
front are what `dropBlanks` takes off. The first other character begins a name (`pair?_foldl_name`),
or ends an empty one if it is an equals sign (`pair?_foldl_value`). -/
theorem pair?_foldl_blank (piece : List Char) :
    (piece.foldl State.step .blank).pair? = pair? (dropBlanks piece) := by
  induction piece with
  | nil => rfl
  | cons c piece ih =>
    by_cases hblank : c = ' ' ∨ c = '\t'
    · have hdrop : dropBlanks (c :: piece) = dropBlanks piece := by simp [dropBlanks, hblank]
      rw [List.foldl_cons, State.step, if_pos hblank, ih, hdrop]
    · have hkeep : dropBlanks (c :: piece) = c :: piece := by simp [dropBlanks, hblank]
      rw [List.foldl_cons, State.step, if_neg hblank, hkeep]
      by_cases hc : c = '='
      · rw [if_pos hc, pair?_foldl_value, hc]
        exact (pair?_append List.not_mem_nil piece).symm
      · have hone : '=' ∉ [c] := by simpa using Ne.symm hc
        rw [if_neg hc, pair?_foldl_name hone]
        rfl

/-! ## The whole string -/

/-- The first value that is found is that of the first pair of the name. -/
theorem findSome?_valueFor {α : Type} (name : List Char) (read : α → Option (List Char × List Char))
    (xs : List α) :
    xs.findSome? (fun x => valueFor name (read x)) = valueOf name (xs.filterMap read) := by
  induction xs with
  | nil => rfl
  | cons x xs ih =>
    rw [List.findSome?_cons, List.filterMap_cons, ih]
    cases read x with
    | none => rfl
    | some pair => by_cases hname : pair.1 = name <;> simp [valueFor, valueOf, hname]

/-- The machine, from its start, finds the first pair of the name that the grammar reads. -/
theorem lookupFrom_eq_valueOf (name cs : List Char) :
    lookupFrom name (.name []) cs = valueOf name (pairs cs) := by
  obtain ⟨first, others, hsplit⟩ := List.exists_cons_of_ne_nil (Text.split_ne_nil (· == ';') cs)
  have hfirst : (first.foldl State.step (.name [])).pair? = pair? first :=
    pair?_foldl_name List.not_mem_nil first
  have hothers : (others.map (·.foldl State.step .blank)).filterMap State.pair? =
      (others.map dropBlanks).filterMap pair? := by
    rw [List.filterMap_map, List.filterMap_map]
    exact congrArg (others.filterMap ·) (funext pair?_foldl_blank)
  have hpairs : (ends (.name []) (first :: others)).filterMap State.pair? =
      (first :: others.map dropBlanks).filterMap pair? := by
    rw [ends, List.filterMap_cons, List.filterMap_cons, hfirst, hothers]
  rw [lookupFrom_eq_findSome?, findSome?_valueFor, pairs, hsplit, hpairs]

/-- **A cookie is the first pair of its name**: the machine finds the value of that pair, among the
pairs that the grammar reads, and nothing if there is none. -/
theorem lookup_eq_valueOf_pairs (cookies name : String) :
    lookup cookies name = (valueOf name.toList (pairs cookies.toList)).map String.ofList := by
  rw [lookup, lookupFrom_eq_valueOf]

example : lookup " a=1;\t a=2=3; b" "a" = some "2=3" := by decide

end Cookie

end CertDashboard
