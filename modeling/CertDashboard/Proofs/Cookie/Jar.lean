import CertDashboard.Cookie.Jar
import CertDashboard.Proofs.Cookie.Grammar

set_option autoImplicit false
set_option relaxedAutoImplicit false

/-!
# A jar that holds pairs

A jar is one text, which is searched by one machine and rewritten by another. As long as it is made
of pairs both agree on what they are.

## Main definitions

* `CertDashboard.Cookie.IsName`, `CertDashboard.Cookie.IsPair` — names and pairs that keep apart.
* `CertDashboard.Cookie.ofPairs` — the cookie string of some pairs.
* `CertDashboard.Cookie.removed` — the name of the cookie that an expiry removes.

## Main results

* `CertDashboard.Cookie.fields_joinFields` — fields are found again in their text.
* `CertDashboard.Cookie.pairs_ofPairs`, `CertDashboard.Cookie.lookup_ofPairs` — pairs are read back,
  and the machine that searches finds the first one of a name.
* `CertDashboard.Cookie.write_expiry` — an expiry removes the pairs of its name and keeps all
  others.
* `CertDashboard.Cookie.token_write_expiry`, `CertDashboard.Cookie.lookup_write_expiry` — what is
  found in the jar behind it.

## Design

A semicolon and a space stand between each two pairs. Neither can be mistaken for a part of a pair:
no pair has a semicolon in it, and no name starts with a space.
-/

namespace CertDashboard

namespace Cookie

/-! ## Names and pairs -/

/-- **A name**: it has no equals sign and no semicolon, and starts with neither space nor tab. -/
structure IsName (name : List Char) : Prop where
  /-- It has no equals sign. -/
  noEquals : '=' ∉ name
  /-- It has no semicolon. -/
  noSemicolon : ';' ∉ name
  /-- It starts with neither space nor tab. -/
  noBlank : ∀ c ∈ name.head?, c ≠ ' ' ∧ c ≠ '\t'

/-- **A pair**: a name, and a value without a semicolon. -/
structure IsPair (pair : List Char × List Char) : Prop where
  /-- The name is one. -/
  name : IsName pair.1
  /-- The value has no semicolon. -/
  value : ';' ∉ pair.2

/-- The text of a pair. -/
def pairText (pair : List Char × List Char) : List Char :=
  pair.1 ++ '=' :: pair.2

/-- **The cookie string of some pairs**, with a semicolon and a space between each two. -/
def ofPairs (ps : List (List Char × List Char)) : List Char :=
  joinFields (ps.map pairText)

/-- The text of a pair has no semicolon. -/
theorem IsPair.noSemicolon {pair : List Char × List Char} (h : IsPair pair) :
    ';' ∉ pairText pair := by
  simp [pairText, h.name.noSemicolon, h.value]

/-- The cookie string of several pairs starts with the first one. -/
theorem ofPairs_cons_cons (pair next : List Char × List Char) (ps : List (List Char × List Char)) :
    ofPairs (pair :: next :: ps) = pairText pair ++ ';' :: ' ' :: ofPairs (next :: ps) :=
  rfl

/-! ## Fields -/

/-- A field ends where a semicolon and a space follow. -/
theorem fields_append {field : List Char} (h : ';' ∉ field) (rest : List Char) :
    fields (field ++ ';' :: ' ' :: rest) = field :: fields rest := by
  induction field with
  | nil => simp [fields]
  | cons c field ih =>
    have hc : ';' ≠ c := List.ne_of_not_mem_cons h
    rw [List.cons_append, fields, ih (List.not_mem_of_not_mem_cons h)]
    intro _ hsemicolon
    exact absurd hsemicolon.symm hc

/-- A text without a semicolon is one field. -/
theorem fields_of_notMem {field : List Char} (h : ';' ∉ field) : fields field = [field] := by
  induction field with
  | nil => rfl
  | cons c field ih =>
    have hc : ';' ≠ c := List.ne_of_not_mem_cons h
    rw [fields, ih (List.not_mem_of_not_mem_cons h)]
    intro _ hsemicolon
    exact absurd hsemicolon.symm hc

/-- **Fields are found again in their text**, if none has a semicolon. -/
theorem fields_joinFields {fs : List (List Char)} (hne : fs ≠ []) (h : ∀ f ∈ fs, ';' ∉ f) :
    fields (joinFields fs) = fs := by
  induction fs with
  | nil => exact absurd rfl hne
  | cons f fs ih =>
    have hfirst : ';' ∉ f := h f List.mem_cons_self
    cases fs with
    | nil => exact fields_of_notMem hfirst
    | cons g fs =>
      rw [joinFields, fields_append hfirst, ih (by simp) fun f' hf' => h f' (.tail _ hf')]

/-- The fields of a text that are kept are those of its fields that are, if empty ones are not. -/
theorem filter_fields_joinFields {fs : List (List Char)} (h : ∀ f ∈ fs, ';' ∉ f)
    {keep : List Char → Bool} (hkeep : keep [] = false) :
    (fields (joinFields fs)).filter keep = fs.filter keep := by
  cases fs with
  | nil => simp [joinFields, fields, hkeep]
  | cons f fs => rw [fields_joinFields (by simp) h]

/-! ## Searching -/

/-- A pair is read in its text. -/
theorem pair?_pairText {pair : List Char × List Char} (h : IsPair pair) :
    pair? (pairText pair) = some pair :=
  pair?_append h.name.noEquals pair.2

/-- No blanks but those of the cookie string stand in front of a pair.

**Proof sketch.** The blank in front is dropped. The text behind it begins with the name, whose
first character is no blank, or with the equals sign if the name is empty, so nothing more is. -/
theorem dropBlanks_pairText {pair : List Char × List Char} (h : IsPair pair) :
    dropBlanks (' ' :: pairText pair) = pairText pair := by
  have hhead : ∀ c ∈ (pairText pair).head?, (c == ' ' || c == '\t') = false := by
    obtain ⟨key, value⟩ := pair
    intro c hc
    cases key with
    | nil =>
      obtain rfl : '=' = c := by simpa [pairText] using hc
      decide
    | cons d key =>
      obtain rfl : d = c := by simpa [pairText] using hc
      have hne := h.name.noBlank d rfl
      simp [hne.1, hne.2]
  rw [dropBlanks, List.dropWhile_cons_of_pos (by decide)]
  cases htext : pairText pair with
  | nil => rfl
  | cons c rest => rw [List.dropWhile_cons_of_neg (by simp [hhead c (by simp [htext])])]

/-- The pieces of a cookie string are the texts of its pairs, all but the first with a space in
front. -/
theorem split_ofPairs {ps : List (List Char × List Char)} (h : ∀ pair ∈ ps, IsPair pair)
    {pair : List Char × List Char} (hpair : IsPair pair) :
    Text.split (· == ';') (ofPairs (pair :: ps)) =
      pairText pair :: ps.map fun p => ' ' :: pairText p := by
  have hno : ∀ p, IsPair p → ∀ c ∈ pairText p, (c == ';') = false := fun p hp c hc =>
    beq_eq_false_iff_ne.mpr fun heq => hp.noSemicolon (heq ▸ hc)
  induction ps generalizing pair with
  | nil => exact Text.split_of_not (hno pair hpair)
  | cons next ps ih =>
    have hnext := ih (fun p hp => h p (.tail _ hp)) (h next List.mem_cons_self)
    rw [ofPairs_cons_cons, Text.split_append (hno pair hpair) rfl, Text.split, if_neg (by decide),
      hnext, List.map_cons]

/-- Pairs are read back from their texts. -/
theorem filterMap_pairText {ps : List (List Char × List Char)} (h : ∀ pair ∈ ps, IsPair pair) :
    (ps.map pairText).filterMap pair? = ps := by
  induction ps with
  | nil => rfl
  | cons pair ps ih =>
    rw [List.map_cons, List.filterMap_cons, pair?_pairText (h pair List.mem_cons_self),
      ih fun p hp => h p (.tail _ hp)]

/-- **The pairs of a cookie string** are read back. -/
theorem pairs_ofPairs {ps : List (List Char × List Char)} (h : ∀ pair ∈ ps, IsPair pair) :
    pairs (ofPairs ps) = ps := by
  cases ps with
  | nil => rfl
  | cons pair ps =>
    have hothers : ∀ p ∈ ps, IsPair p := fun p hp => h p (.tail _ hp)
    have hblanks : (ps.map fun p => ' ' :: pairText p).map dropBlanks = ps.map pairText := by
      rw [List.map_map]
      exact List.map_congr_left fun p hp => dropBlanks_pairText (hothers p hp)
    unfold pairs
    rw [split_ofPairs hothers (h pair List.mem_cons_self)]
    simp only [hblanks]
    exact filterMap_pairText h

/-- **The machine that searches finds the first pair of a name.** -/
theorem lookup_ofPairs {ps : List (List Char × List Char)} (h : ∀ pair ∈ ps, IsPair pair)
    (name : String) : lookup (String.ofList (ofPairs ps)) name =
      (valueOf name.toList ps).map String.ofList := by
  rw [lookup, String.toList_ofList, lookupFrom_eq_valueOf, pairs_ofPairs h]

/-! ## Writing -/

/-- A text occurs wherever it stands.

**Proof sketch.** Induction on the text in front. Without one, the needle is a prefix of what is
left; the empty needle in an empty text is a case of its own, since the search looks at one
character at least. -/
theorem occurs_append (front needle back : List Char) :
    Text.occurs needle (front ++ (needle ++ back)) = true := by
  induction front with
  | nil =>
    have hprefix : needle.isPrefixOf (needle ++ back) = true :=
      List.isPrefixOf_iff_prefix.mpr (List.prefix_append _ _)
    rw [List.nil_append]
    cases htext : needle ++ back with
    | nil =>
      rw [List.append_eq_nil_iff] at htext
      simp [Text.occurs, htext.1]
    | cons c rest =>
      rw [htext] at hprefix
      simp [Text.occurs, hprefix]
  | cons c front ih => rw [List.cons_append, Text.occurs, ih, Bool.or_true]

/-- A pair is one of a name if and only if its text starts with that and an equals sign.

**Proof sketch.** Induction on the name that is looked for, along with the key of the pair. Where
the name ends, the equals sign decides whether the key ends too, because neither has one in it. -/
theorem isPrefixOf_pairText {name key : List Char} (hname : '=' ∉ name) (hkey : '=' ∉ key)
    (value : List Char) :
    (name ++ ['=']).isPrefixOf (pairText (key, value)) = decide (key = name) := by
  unfold pairText
  induction name generalizing key with
  | nil =>
    cases key with
    | nil => simp
    | cons d key =>
      have hd : '=' ≠ d := List.ne_of_not_mem_cons hkey
      simp [List.isPrefixOf, hd]
  | cons c name ih =>
    have hc : '=' ≠ c := List.ne_of_not_mem_cons hname
    cases key with
    | nil => simp [List.isPrefixOf, hc.symm]
    | cons d key =>
      have htail := ih (List.not_mem_of_not_mem_cons hname) (List.not_mem_of_not_mem_cons hkey)
      by_cases hcd : c = d
      · subst hcd
        simpa using htail
      · simp [List.isPrefixOf, hcd, Ne.symm hcd]

/-- An assignment is to the name in front of its first equals sign. -/
theorem write_eq (jar : Jar) {assignment : String} {name rest : List Char} (hname : '=' ∉ name)
    (h : assignment.toList = name ++ '=' :: rest) :
    jar.write assignment = jar.assign assignment.toList name rest := by
  rw [Jar.write, h, dropWhile_append_equals hname, takeWhile_append_equals hname]

/-- **An assignment to a name** takes all pairs of that name out of a jar, and puts its own pair at
the end, unless it has a date in the past.

**Proof sketch.** The fields of the jar are the texts of its pairs (`filter_fields_joinFields`),
none of which is empty. Of these the ones of the name are found by their beginning
(`isPrefixOf_pairText`). What is put behind the rest depends on the past date only. -/
theorem assign_ofPairs {ps : List (List Char × List Char)} (h : ∀ pair ∈ ps, IsPair pair)
    {name : List Char} (hname : '=' ∉ name) (assignment rest : List Char) :
    (Jar.assign ⟨String.ofList (ofPairs ps)⟩ assignment name rest).raw =
      String.ofList (ofPairs (ps.filter (fun pair => pair.1 != name) ++
        if Text.occurs pastDate.toList assignment then []
        else [(name, rest.takeWhile (· ≠ ';'))])) := by
  have htexts : ∀ f ∈ ps.map pairText, ';' ∉ f := by
    intro f hf
    obtain ⟨pair, hpair, rfl⟩ := List.mem_map.mp hf
    exact (h pair hpair).noSemicolon
  have hkept : (ps.map pairText).filter
      (fun field => !field.isEmpty && !(name ++ ['=']).isPrefixOf field) =
        (ps.filter fun pair => pair.1 != name).map pairText := by
    rw [List.filter_map]
    congr 1
    refine List.filter_congr fun pair hpair => ?_
    have hprefix := isPrefixOf_pairText hname (h pair hpair).name.noEquals pair.2
    have hnonempty : (pairText pair).isEmpty = false := by simp [pairText]
    simp only [Function.comp_apply, hprefix, hnonempty, Bool.not_false, Bool.true_and]
    by_cases heq : pair.1 = name <;> simp [heq]
  unfold Jar.assign
  simp only [String.toList_ofList]
  unfold ofPairs
  rw [filter_fields_joinFields htexts rfl, hkept, List.map_append]
  split
  · rfl
  · simp [pairText]

/-! ## Expiry -/

/-- **The name of the cookie that an expiry removes**: what is in front of the first equals sign,
and so the whole of a name. -/
def removed (name : String) : List Char :=
  name.toList.takeWhile (· ≠ '=')

/-- A name has no equals sign, and an expiry removes the cookie of that name. -/
theorem removed_eq {name : String} (h : '=' ∉ name.toList) : removed name = name.toList := by
  refine List.takeWhile_eq_self_iff.mpr fun c hc => ?_
  exact decide_eq_true fun heq => h (heq ▸ hc)

/-- What an expiry removes has no equals sign. -/
theorem notMem_removed (name : String) : '=' ∉ removed name := by
  intro hmem
  have hne := List.mem_takeWhile_imp hmem
  simp at hne

/-- An expiry is an assignment to the name that it removes. -/
theorem exists_expiry (name : String) :
    ∃ rest, (expiry name).toList = removed name ++ '=' :: rest := by
  have htext : (expiry name).toList = name.toList ++
      '=' :: ("; Path=/; ".toList ++ (pastDate.toList ++ " 00:00:01 GMT;".toList)) := by
    simp [expiry]
  have hsplit : removed name ++ name.toList.dropWhile (· ≠ '=') = name.toList :=
    List.takeWhile_append_dropWhile
  rw [htext, ← hsplit, List.append_assoc]
  rcases hdrop : name.toList.dropWhile (· ≠ '=') with _ | ⟨c, tail⟩
  · exact ⟨_, rfl⟩
  · have hhead := List.head?_dropWhile_not (fun c => decide (c ≠ '=')) name.toList
    rw [hdrop] at hhead
    obtain rfl : c = '=' := by simpa using hhead
    exact ⟨_, rfl⟩

/-- An expiry has a date in the past. -/
theorem occurs_expiry (name : String) :
    Text.occurs pastDate.toList (expiry name).toList = true := by
  have htext : (expiry name).toList = (name.toList ++ "=; Path=/; ".toList) ++
      (pastDate.toList ++ " 00:00:01 GMT;".toList) := by
    simp [expiry]
  rw [htext]
  exact occurs_append _ _ _

/-- **An expiry removes the pairs of its name** and keeps all others. -/
theorem write_expiry {ps : List (List Char × List Char)} (h : ∀ pair ∈ ps, IsPair pair)
    (name : String) : (Jar.write ⟨String.ofList (ofPairs ps)⟩ (expiry name)).raw =
      String.ofList (ofPairs (ps.filter fun pair => pair.1 != removed name)) := by
  obtain ⟨rest, hrest⟩ := exists_expiry name
  rw [write_eq _ (notMem_removed name) hrest, assign_ofPairs h (notMem_removed name),
    if_pos (occurs_expiry name), List.append_nil]

/-- Behind an expiry every other name has the value that it had. -/
theorem lookup_write_expiry {ps : List (List Char × List Char)} (h : ∀ pair ∈ ps, IsPair pair)
    (name : String) {other : String} (hother : other.toList ≠ removed name) :
    lookup (Jar.write ⟨String.ofList (ofPairs ps)⟩ (expiry name)).raw other =
      lookup (String.ofList (ofPairs ps)) other := by
  have hkept : ∀ pair ∈ ps.filter fun pair => pair.1 != removed name, IsPair pair :=
    fun pair hpair => h pair (List.mem_filter.mp hpair).1
  rw [write_expiry h, lookup_ofPairs hkept, lookup_ofPairs h, valueOf, valueOf, List.find?_filter]
  congr 3
  funext pair
  by_cases hname : pair.1 = other.toList <;> simp [hname, hother]

/-- **Behind an expiry there is no token.**

**Proof sketch.** The expiry leaves the pairs of other names (`write_expiry`). In these the name is
not found: a pair of that name has no equals sign in it, so it was the removed one (`removed_eq`)
and has been filtered out. -/
theorem token_write_expiry {ps : List (List Char × List Char)} (h : ∀ pair ∈ ps, IsPair pair)
    (name : String) :
    token (Jar.write ⟨String.ofList (ofPairs ps)⟩ (expiry name)).raw name = none := by
  have hkept : ∀ pair ∈ ps.filter fun pair => pair.1 != removed name, IsPair pair :=
    fun pair hpair => h pair (List.mem_filter.mp hpair).1
  have hnone : valueOf name.toList (ps.filter fun pair => pair.1 != removed name) = none := by
    rw [valueOf, Option.map_eq_none_iff, List.find?_eq_none]
    intro pair hpair hname
    obtain ⟨hmem, hne⟩ := List.mem_filter.mp hpair
    have hpairname : pair.1 = name.toList := by simpa using hname
    -- No pair has an equals sign in its name: this one would be of the name that was removed.
    have hremoved := removed_eq (hpairname ▸ (h pair hmem).name.noEquals)
    rw [hpairname, hremoved] at hne
    simp at hne
  rw [token, write_expiry h, lookup_ofPairs hkept, hnone]
  rfl

end Cookie

end CertDashboard
