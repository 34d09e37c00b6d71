import CertDashboard.Json.Value

set_option autoImplicit false
set_option relaxedAutoImplicit false

/-!
# Values that are written, and what is read of them

A value that is written and read back without its spelling is the same value, whatever its shape.

## Main results

* `CertDashboard.Json.Value.ofOutline?_string`, `ofOutline?_ofInt`, `ofOutline?_array`,
  `ofOutline?_object` — values without their spelling.
* `CertDashboard.Json.Value.render_ofInt`, `renderElements_map` — both have one compact text.

## Design

An array needs room for one container more than its elements do. All lemmas about arrays are about
the elements of a list, written one by one, so that what is known of one is enough.
-/

namespace CertDashboard

namespace Json

/-- An integer of 64 bits, signed or not, is what its own literal denotes. -/
theorem Number.integer?_ofInt {i : Int} (hlow : -0x8000000000000000 ≤ i)
    (hhigh : i ≤ 0xffffffffffffffff) : (Number.ofInt i).integer? = some i := by
  unfold Number.ofInt Number.integer? Number.greatest
  simp only [Digits.value_ofNat, UInt64.size, decide_eq_true_eq]
  split
  · rw [if_pos (by omega)]
    congr 1
    omega
  · rw [if_pos (by omega)]
    congr 1
    omega

/-- Elements that are written and read one by one, none of which fails. -/
theorem mapM_map_pure {m : Type → Type} [Monad m] [LawfulMonad m] {α β γ : Type} {read : β → m γ}
    {f : α → β} {g : α → γ} {xs : List α} (h : ∀ x ∈ xs, read (f x) = pure (g x)) :
    (xs.map f).mapM read = pure (xs.map g) := by
  induction xs with
  | nil => rfl
  | cons x xs ih =>
    have htail := ih fun y hy => h y (List.mem_cons_of_mem x hy)
    rw [List.map_cons, List.mapM_cons, h x List.mem_cons_self, pure_bind, htail, pure_bind,
      List.map_cons]

/-- The outlines of a list that is written one element at a time. -/
theorem outlines_map {α : Type} (f : α → Json) (xs : List α) :
    outlines (xs.map f) = xs.map fun x => (f x).outline := by
  induction xs with
  | nil => rfl
  | cons x xs ih => rw [List.map_cons, outlines, ih, List.map_cons]

/-! ## Values without their spelling -/

namespace Value

/-- An integer of 64 bits, signed or not, is its own value. -/
theorem ofOutline?_ofInt (room : Nat) {i : Int} (hlow : -0x8000000000000000 ≤ i)
    (hhigh : i ≤ 0xffffffffffffffff) :
    ofOutline? room (Json.ofInt i).outline = some (.number (.integer i)) := by
  simp [Json.ofInt, outline, ofOutline?, Number.quantity?, Number.integer?_ofInt hlow hhigh]

/-- A string is its own value. -/
theorem ofOutline?_string (room : Nat) (s : String) :
    ofOutline? room (Json.string s).outline = some (.string s) := by
  simp [outline, ofOutline?]

/-- A truth value is its own value. -/
theorem ofOutline?_bool (room : Nat) (b : Bool) :
    ofOutline? room (Json.bool b).outline = some (.bool b) := by
  simp [outline, ofOutline?]

/-- The value of an array, by the values of its elements. -/
theorem ofOutline?_array {α : Type} {room : Nat} {f : α → Json} {g : α → Value} {xs : List α}
    (h : ∀ x ∈ xs, ofOutline? room (f x).outline = some (g x)) :
    ofOutline? (room + 1) (Json.array (xs.map f)).outline = some (.array (xs.map g)) := by
  have hall : ofOutlines? room (xs.map fun x => (f x).outline) = some (xs.map g) := by
    induction xs with
    | nil => rfl
    | cons x xs ih =>
      have htail := ih fun y hy => h y (List.mem_cons_of_mem x hy)
      rw [List.map_cons, ofOutlines?, h x List.mem_cons_self, htail, List.map_cons]
  simp [outline, ofOutline?, outlines_map, hall]

/-- One member of an object, put into those that are there. -/
theorem ofMembers?_cons {room : Nat} {v : Json} {w : Value}
    (h : ofOutline? room v.outline = some w) (key : String) (rest : List (String × Json))
    (done : List (String × Value)) :
    ofMembers? room done (memberOutlines ((key, v) :: rest)) =
      ofMembers? room (insert key w done) (memberOutlines rest) := by
  rw [memberOutlines, ofMembers?, h]
  simp

/-- The value of an object, by its members. -/
theorem ofOutline?_object {room : Nat} {members : List (String × Json)}
    {values : List (String × Value)}
    (h : ofMembers? room [] (memberOutlines members) = some values) :
    ofOutline? (room + 1) (Json.object members).outline = some (.object values) := by
  simp [outline, ofOutline?, h]

/-! ## Texts of values -/

/-- An integer is written the same way with and without its spelling. -/
theorem render_ofInt (i : Int) : (Json.ofInt i).render = renderQuantity (.integer i) := by
  unfold renderQuantity Decimal.integer
  by_cases h : i < 0 <;>
    simp [Json.ofInt, Json.render, Number.render, Number.ofInt, Digits.ofNat, h]

/-- Elements are written the same way with and without their spelling, if each of them is. -/
theorem renderElements_map {α : Type} {f : α → Json} {g : α → Value} (xs : List α)
    (h : ∀ x ∈ xs, (g x).render = (f x).render) :
    renderElements (xs.map g) = Json.renderElements (xs.map f) := by
  induction xs with
  | nil => rfl
  | cons x xs ih =>
    have htail := ih fun y hy => h y (List.mem_cons_of_mem x hy)
    cases xs with
    | nil => simp [renderElements, Json.renderElements, h]
    | cons y ys =>
      simp only [List.map_cons] at htail ⊢
      rw [renderElements, Json.renderElements, h x List.mem_cons_self, htail]

end Value

end Json

end CertDashboard
