import CertDashboard.Proofs.Contract.Rules
import CertDashboard.Proofs.Json.Acceptance

set_option autoImplicit false
set_option relaxedAutoImplicit false

/-!
# Values as they are written, and schemas

A schema is about values without their spelling: numbers are what their literals denote, and of two
members with one key the later one counts. What it says of such a value it says of the value as it
is written, too, part by part.

## Main definitions

* `CertDashboard.Json.DistinctKeys` — no object has two members with one key.
* `CertDashboard.Contract.Meets` — a value as it is written keeps a schema.

## Main results

* `CertDashboard.Json.Value.member?_ofMembers?` — which member of an object counts.
* `CertDashboard.Contract.Meets.shape` — a value has one of the shapes that a schema asks for.
* `CertDashboard.Contract.Meets.element`, `CertDashboard.Contract.Meets.mandatory`,
  `CertDashboard.Contract.Meets.voluntary` — its parts keep the rules for these parts.

## Design

How deep containers are nested is no matter of a schema. A value keeps one if it does so when there
is room enough, and a reader of texts has room for `Value.depth` of them.
-/

namespace CertDashboard

namespace Json

/-- **No object has two members with one key**, in the whole value. -/
inductive DistinctKeys : Json → Prop where
  /-- The word `null`. -/
  | null : DistinctKeys .null
  /-- A truth value. -/
  | bool (b : Bool) : DistinctKeys (.bool b)
  /-- A number. -/
  | number (n : Number) : DistinctKeys (.number n)
  /-- A string. -/
  | string (s : String) : DistinctKeys (.string s)
  /-- An array. -/
  | array {elements : List Json} (parts : ∀ v ∈ elements, DistinctKeys v) :
    DistinctKeys (.array elements)
  /-- An object. -/
  | object {members : List (String × Json)} (keys : (members.map Prod.fst).Nodup)
    (parts : ∀ m ∈ members, DistinctKeys m.2) : DistinctKeys (.object members)

namespace DistinctKeys

/-- The keys of an object are distinct. -/
theorem keys {members : List (String × Json)} :
    DistinctKeys (.object members) → (members.map Prod.fst).Nodup
  | .object keys _ => keys

/-- So are those inside of its members. -/
theorem member {members : List (String × Json)} :
    DistinctKeys (.object members) → ∀ m ∈ members, DistinctKeys m.2
  | .object _ parts => parts

/-- So are those inside of the elements of an array. -/
theorem element {elements : List Json} :
    DistinctKeys (.array elements) → ∀ v ∈ elements, DistinctKeys v
  | .array parts => parts

end DistinctKeys

/-- The values of a key are values of members. -/
theorem mem_of_mem_valuesOf {name : String} {v : Json} {members : List (String × Json)}
    (h : v ∈ valuesOf name members) : (name, v) ∈ members := by
  obtain ⟨⟨key, w⟩, hfilter, rfl⟩ := List.mem_map.mp h
  obtain ⟨hmem, hkey⟩ := List.mem_filter.mp hfilter
  obtain rfl : key = name := beq_iff_eq.mp hkey
  exact hmem

/-- The keys inside of the value of a key are distinct. -/
theorem DistinctKeys.valuesOf {name : String} {v : Json} {members : List (String × Json)}
    (h : DistinctKeys (.object members)) (hv : Json.valuesOf name members = [v]) :
    DistinctKeys v :=
  h.member _ (mem_of_mem_valuesOf (by rw [hv]; exact List.mem_cons_self))

/-- Where no two members have one key, a key has one value or none.

**Proof sketch.** Induction on the members. Behind a member of the key there is no other one, for
its key would be there twice; a member of another key adds nothing. -/
theorem valuesOf_of_nodup {members : List (String × Json)} (h : (members.map Prod.fst).Nodup)
    (name : String) : valuesOf name members = [] ∨ ∃ v, valuesOf name members = [v] := by
  induction members with
  | nil => exact .inl rfl
  | cons m members ih =>
    obtain ⟨key, v⟩ := m
    obtain ⟨hnew, hrest⟩ := List.nodup_cons.mp h
    by_cases hkey : key = name
    · have hnone : valuesOf name members = [] := by
        refine List.eq_nil_iff_forall_not_mem.mpr fun w hw => hnew ?_
        exact List.mem_map.mpr ⟨_, mem_of_mem_valuesOf hw, hkey.symm⟩
      subst hkey
      exact .inr ⟨v, by rw [valuesOf_cons_self, hnone]⟩
    · rw [valuesOf_cons_of_ne hkey]
      exact ih hrest

namespace Value

/-! ## What is read of a value -/

/-- A member that is put in is found, and all others are as they were.

**Proof sketch.** Induction on the members, by the two tests of `insert`: the key is found and its
value replaced, or its place is in front of this member, or further on. -/
theorem member?_insert (name key : String) (value : Value) (members : List (String × Value)) :
    member? name (insert key value members) =
      if key = name then some value else member? name members := by
  induction members with
  | nil => by_cases h : key = name <;> simp [insert, member?, h]
  | cons m members ih =>
    obtain ⟨k, v⟩ := m
    have hcons : ∀ (k : String) (v : Value) ms, member? name ((k, v) :: ms) =
        if k = name then some v else member? name ms := by
      intro k v ms
      by_cases h : k = name <;> simp [member?, h]
    rw [insert]
    split
    · next heq =>
      subst heq
      rw [hcons, hcons]
      by_cases h : key = name <;> simp [h]
    · next hne =>
      split
      · rw [hcons]
      · rw [hcons, hcons, ih]
        by_cases hk : k = name
        · have hkey : key ≠ name := fun h => hne (h.trans hk.symm)
          simp [hk, hkey]
        · simp [hk]

/-- Of two members with one key the later one counts.

**Proof sketch.** Induction on the members, for all that were done before. The value of a member is
inserted, so that it is found under its key until a later one of the same key replaces it; whether
there is such a one is the case split of the last step. -/
theorem member?_ofMembers? {room : Nat} {done values : List (String × Value)}
    {members : List (String × Json)} (h : ofMembers? room done (memberOutlines members) = some values)
    (name : String) :
    (valuesOf name members = [] → member? name values = member? name done) ∧
      ∀ v, (valuesOf name members).getLast? = some v →
        ∃ w, ofOutline? room v.outline = some w ∧ member? name values = some w := by
  induction members generalizing done with
  | nil =>
    obtain rfl : done = values := by simpa [memberOutlines, ofMembers?] using h
    exact ⟨fun _ => rfl, nofun⟩
  | cons m members ih =>
    obtain ⟨key, v⟩ := m
    rw [memberOutlines, ofMembers?] at h
    rcases hw : ofOutline? room v.outline with _ | w
    · simp [hw] at h
    · simp only [hw, Content.isPaired_ofString, if_true, Content.toString_ofString] at h
      obtain ⟨hnone, hlast⟩ := ih h
      by_cases hkey : key = name
      · subst hkey
        rw [valuesOf_cons_self]
        refine ⟨nofun, fun u hu => ?_⟩
        -- This member counts only if no later one has its key.
        rcases hvalues : valuesOf key members with _ | ⟨x, xs⟩
        · obtain rfl : v = u := by simpa [hvalues] using hu
          refine ⟨w, hw, ?_⟩
          rw [hnone hvalues, member?_insert, if_pos rfl]
        · refine hlast u ?_
          rw [hvalues] at hu ⊢
          simpa using hu
      · rw [valuesOf_cons_of_ne hkey]
        refine ⟨fun hempty => ?_, hlast⟩
        rw [hnone hempty, member?_insert, if_neg hkey]

/-- The values of several elements are those of each of them.

**Proof sketch.** Induction on the elements. The first one is read for itself, the others by
induction. -/
theorem exists_of_ofOutlines? {room : Nat} {elements : List Json} {values : List Value}
    (h : ofOutlines? room (outlines elements) = some values) {v : Json} (hv : v ∈ elements) :
    ∃ w ∈ values, ofOutline? room v.outline = some w := by
  induction elements generalizing values with
  | nil => simp at hv
  | cons e elements ih =>
    rw [outlines, ofOutlines?] at h
    split at h
    · next w ws hw hws =>
      obtain rfl := Option.some.inj h
      rcases List.mem_cons.mp hv with rfl | hv
      · exact ⟨w, List.mem_cons_self, hw⟩
      · obtain ⟨u, hu, hread⟩ := ih hws hv
        exact ⟨u, List.mem_cons_of_mem _ hu, hread⟩
    · cases h

/-- The value of an array is an array, with less room for its elements. -/
theorem exists_of_ofOutline?_array {room : Nat} {elements : List Json} {value : Value}
    (h : ofOutline? room (Json.array elements).outline = some value) :
    ∃ room' values, value = .array values ∧ ofOutlines? room' (outlines elements) = some values := by
  rw [outline, ofOutline?] at h
  split at h
  · obtain ⟨values, hvalues, rfl⟩ := Option.map_eq_some_iff.mp h
    exact ⟨_, values, rfl, hvalues⟩
  · cases h

/-- The value of an object is an object, with less room for its members. -/
theorem exists_of_ofOutline?_object {room : Nat} {members : List (String × Json)} {value : Value}
    (h : ofOutline? room (Json.object members).outline = some value) :
    ∃ room' values, value = .object values ∧
      ofMembers? room' [] (memberOutlines members) = some values := by
  rw [outline, ofOutline?] at h
  split at h
  · obtain ⟨values, hvalues, rfl⟩ := Option.map_eq_some_iff.mp h
    exact ⟨_, values, rfl, hvalues⟩
  · cases h

end Value

end Json

namespace Contract

open Json

/-- **A value as it is written keeps a schema**: read without its spelling it has no violations. -/
def Meets (schema : Schema) (v : Json) : Prop :=
  ∃ room value, Value.ofOutline? room v.outline = some value ∧ violations schema value = []

/-- A value whose text is read without violations keeps the schema. -/
theorem meets_of_ofText? {schema : Schema} {v : Json} {value : Value}
    (h : Value.ofText? v.text.toList = some value) (hno : violations schema value = []) :
    Meets schema v := by
  unfold Value.ofText? at h
  rw [toList_text, Document.ofText_render] at h
  exact ⟨Value.depth, value, h, hno⟩

/-- **A value as it is written is of a kind**, whichever number or text it is. -/
def Kind.Shape : Kind → Json → Prop
  | .null, v => v = .null
  | .bool, v => ∃ b, v = .bool b
  | .integer, v => ∃ n, v = .number n
  | .string, v => ∃ s, v = .string s
  | .array, v => ∃ elements, v = .array elements
  | .object, v => ∃ members, v = .object members

/-- A value is of no kind that it is not of as it is written.

**Proof sketch.** By the shape of the value as it is written. Reading keeps the shape, so that of
the six kinds only the one of this shape holds. -/
theorem Kind.shape_of_holds {k : Kind} {room : Nat} {v : Json} {value : Value}
    (hvalue : Value.ofOutline? room v.outline = some value) (hholds : k.holds value = true) :
    k.Shape v := by
  cases v with
  | null =>
    obtain rfl : Value.null = value := by simpa [outline, Value.ofOutline?] using hvalue
    cases k <;> first | exact rfl | cases hholds
  | bool b =>
    obtain rfl : Value.bool b = value := by simpa [outline, Value.ofOutline?] using hvalue
    cases k <;> first | exact ⟨b, rfl⟩ | cases hholds
  | number n =>
    obtain ⟨q, _, rfl⟩ := Option.map_eq_some_iff.mp hvalue
    cases k <;> first | exact ⟨n, rfl⟩ | cases hholds
  | string s =>
    obtain rfl : Value.string s = value := by simpa [outline, Value.ofOutline?] using hvalue
    cases k <;> first | exact ⟨s, rfl⟩ | cases hholds
  | array elements =>
    obtain ⟨_, values, rfl, _⟩ := Value.exists_of_ofOutline?_array hvalue
    cases k <;> first | exact ⟨elements, rfl⟩ | cases hholds
  | object members =>
    obtain ⟨_, values, rfl, _⟩ := Value.exists_of_ofOutline?_object hvalue
    cases k <;> first | exact ⟨members, rfl⟩ | cases hholds

namespace Meets

variable {schema : Schema}

/-- A value has one of the shapes that the schema asks for. -/
theorem shape {v : Json} (h : Meets schema v) {ks : List Kind} (hks : Rule.kinds ks ∈ schema) :
    ∃ k ∈ ks, k.Shape v := by
  obtain ⟨room, value, hvalue, hno⟩ := h
  obtain ⟨k, hk, hholds⟩ := allKept_iff.mp (violations_eq_nil_iff.mp hno) _ hks
  exact ⟨k, hk, k.shape_of_holds hvalue hholds⟩

/-- A value has the only shape that the schema asks for. -/
theorem shape_of_singleton {v : Json} (h : Meets schema v) {k : Kind}
    (hk : Rule.kinds [k] ∈ schema) : k.Shape v := by
  obtain ⟨k', hk', hshape⟩ := h.shape hk
  obtain rfl : k' = k := List.mem_singleton.mp hk'
  exact hshape

/-- The elements of an array keep the rules for elements. -/
theorem element {elements : List Json} (h : Meets schema (.array elements)) (rules : Schema)
    (hrule : Rule.elements rules ∈ schema) {v : Json} (hv : v ∈ elements) : Meets rules v := by
  obtain ⟨room, value, hvalue, hno⟩ := h
  obtain ⟨room', values, rfl, hvalues⟩ := Value.exists_of_ofOutline?_array hvalue
  obtain ⟨w, hw, hread⟩ := Value.exists_of_ofOutlines? hvalues hv
  have hkept := allKept_iff.mp (violations_eq_nil_iff.mp hno) _ hrule
  exact ⟨room', w, hread, violations_eq_nil_iff.mpr (hkept values rfl w hw)⟩

/-- A property that need not be there keeps its rules if it is. -/
theorem voluntary {members : List (String × Json)} (h : Meets schema (.object members))
    (hkeys : (members.map Prod.fst).Nodup) (name : String) (rules : Schema)
    (hrule : Rule.property name rules ∈ schema) :
    valuesOf name members = [] ∨ ∃ v, valuesOf name members = [v] ∧ Meets rules v := by
  obtain ⟨room, value, hvalue, hno⟩ := h
  obtain ⟨room', values, rfl, hvalues⟩ := Value.exists_of_ofOutline?_object hvalue
  rcases valuesOf_of_nodup hkeys name with hnone | ⟨v, hone⟩
  · exact .inl hnone
  · obtain ⟨w, hread, hmember⟩ := (Value.member?_ofMembers? hvalues name).2 v (by rw [hone]; rfl)
    have hkept := allKept_iff.mp (violations_eq_nil_iff.mp hno) _ hrule
    exact .inr ⟨v, hone, room', w, hread,
      violations_eq_nil_iff.mpr (hkept values rfl w hmember)⟩

/-- A property that has to be there is, and keeps its rules. -/
theorem mandatory {members : List (String × Json)} (h : Meets schema (.object members))
    (hkeys : (members.map Prod.fst).Nodup) (name : String) (rules : Schema)
    (hrules : Contract.mandatory name rules ⊆ schema) :
    ∃ v, valuesOf name members = [v] ∧ Meets rules v := by
  have hproperty : Rule.property name rules ∈ schema := hrules (.tail _ List.mem_cons_self)
  rcases h.voluntary hkeys name rules hproperty with hnone | hone
  · obtain ⟨room, value, hvalue, hno⟩ := h
    obtain ⟨room', values, rfl, hvalues⟩ := Value.exists_of_ofOutline?_object hvalue
    have hkept := allKept_iff.mp (violations_eq_nil_iff.mp hno) _ (hrules List.mem_cons_self)
    exact absurd ((Value.member?_ofMembers? hvalues name).1 hnone) (hkept values rfl)
  · exact hone

end Meets

end Contract

end CertDashboard
