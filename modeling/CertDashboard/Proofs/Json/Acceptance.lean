import CertDashboard.Json.Decode
import CertDashboard.Proofs.Json.Reading
import Mathlib.Data.List.Forall2
import Mathlib.Logic.Function.Basic

set_option autoImplicit false
set_option relaxedAutoImplicit false

/-!
# What decoders accept

A decoder goes through a text from left to right and stops at its first fault. Whether it finds one
does not depend on that order: a value is accepted for what it is, and an object for the values that
each of its keys has.

## Main definitions

* `CertDashboard.Json.Number.Spells` — the integer of 64 bits that a literal spells.
* `CertDashboard.Json.valuesOf` — the values that an object has under a key.
* `CertDashboard.Json.Filled` — what becomes of a slot when the values of its key are read.
* `CertDashboard.Json.Record.Layout` — a record each of whose fields fills a slot of its own.

## Main results

* `CertDashboard.Json.decode_render` — the text of a value is decoded as its outline is.
* `CertDashboard.Json.Decoder.text_eq_ok_iff`, `integer_eq_ok_iff`, `list_eq_ok_iff`,
  `optional_eq_ok_iff` — what decoders of single values accept.
* `CertDashboard.Json.Record.Layout.readMembers_eq_ok_iff`, `decoder_object_eq_ok_iff` — what the
  object form of a record is accepted as.

## Design

The draft of a record is a family of slots, one for each field. Reading a member fills the slot of
its key, if that is empty, and leaves all others alone; so members can be sorted by their keys
before they are read, and what has been read of one key is at most one value.
-/

namespace CertDashboard

namespace Json

/-- A step that succeeds behind another one. -/
theorem bind_eq_ok_iff {ε α β : Type} {x : Except ε α} {f : α → Except ε β} {b : β} :
    (x >>= f) = .ok b ↔ ∃ a, x = .ok a ∧ f a = .ok b := by
  cases x <;> simp [bind, Except.bind]

/-- A result that is mapped is a result. -/
theorem map_eq_ok_iff {ε α β : Type} {x : Except ε α} {f : α → β} {b : β} :
    x.map f = .ok b ↔ ∃ a, x = .ok a ∧ f a = b := by
  cases x <;> simp [Except.map]

/-- Every element has a partner if and only if there is a list of partners. -/
theorem exists_forall₂_iff {α β : Type} {R : α → β → Prop} {xs : List α} :
    (∃ ys, List.Forall₂ R xs ys) ↔ ∀ x ∈ xs, ∃ y, R x y := by
  induction xs with
  | nil => simp
  | cons x xs ih =>
    rw [List.forall_mem_cons, ← ih]
    constructor
    · rintro ⟨_, _ | ⟨hy, hys⟩⟩
      exact ⟨⟨_, hy⟩, _, hys⟩
    · rintro ⟨⟨y, hy⟩, ys, hys⟩
      exact ⟨y :: ys, .cons hy hys⟩

/-- **The text of a value is decoded as its outline is.** -/
theorem decode_render {α : Type} (d : Decoder α) (v : Json) : decode d v.render = d v.outline := by
  rw [decode, Document.ofText_render]
  cases d v.outline <;> rfl

mutual

/-- Nothing of a value is broken. -/
theorem isWhole_outline : ∀ v : Json, v.outline.isWhole = true
  | .null | .bool _ | .number _ | .string _ => rfl
  | .array elements => by simp [outline, Outline.isWhole, areWhole_outlines elements]
  | .object members => by simp [outline, Outline.isWhole, areWholeMembers_memberOutlines members]

/-- Nothing of several values is broken. -/
theorem areWhole_outlines : ∀ vs : List Json, areWhole (outlines vs) = true
  | [] => rfl
  | v :: vs => by simp [outlines, areWhole, isWhole_outline v, areWhole_outlines vs]

/-- Nothing of several members is broken. -/
theorem areWholeMembers_memberOutlines :
    ∀ ms : List (String × Json), areWholeMembers (memberOutlines ms) = true
  | [] => rfl
  | (k, v) :: ms => by
    simp [memberOutlines, areWholeMembers, isWhole_outline v, areWholeMembers_memberOutlines ms]

end

/-! ## Single values -/

/-- **The integer that a literal spells**: it has neither fraction nor exponent and is not minus
zero, and the integer fits 64 bits. -/
structure Number.Spells (n : Number) (i : Int64) : Prop where
  /-- There is no fraction. -/
  fraction : n.fraction = none
  /-- There is no exponent. -/
  exponent : n.exponent = none
  /-- It is not minus zero. -/
  ne_minusZero : n.negative = true → n.whole.value ≠ 0
  /-- The digits and the sign say which integer it is. -/
  toInt : i.toInt = if n.negative then -(n.whole.value : Int) else n.whole.value

/-- The literal of an integer spells it. -/
theorem Number.spells_ofInt (i : Int64) : (Number.ofInt i.toInt).Spells i := by
  refine ⟨rfl, rfl, fun h => ?_, ?_⟩
  · simp only [Number.ofInt, decide_eq_true_eq, Digits.value_ofNat] at h ⊢
    omega
  · simp only [Number.ofInt, decide_eq_true_eq, Digits.value_ofNat]
    split <;> omega

/-- What a literal spells is the integer that it denotes.

**Proof sketch.** A spelling has neither fraction nor exponent, and its value with its sign is the
word. The bounds of the word are within those of the reader, on either side of zero; minus zero is
excluded. -/
theorem Number.Spells.integer?_eq {n : Number} {i : Int64} (h : n.Spells i) :
    n.integer? = some i.toInt := by
  have hlow := i.le_toInt
  have hhigh := i.toInt_lt
  have hzero := h.ne_minusZero
  have hvalue := h.toInt
  unfold Number.integer? Number.greatest
  simp only [h.fraction, h.exponent, UInt64.size]
  split
  · next hneg =>
    rw [if_pos hneg] at hvalue
    have hne := hzero hneg
    rw [if_pos (by omega), hvalue]
  · next hneg =>
    rw [if_neg hneg] at hvalue
    rw [if_pos (by omega), hvalue]

/-- A literal that denotes an integer is written as one.

**Proof sketch.** Along the tests of `integer?`: no fraction and no exponent, then the sign, then
the bound of that side. -/
theorem Number.integer?_cases {n : Number} {i : Int} (h : n.integer? = some i) :
    n.fraction = none ∧ n.exponent = none ∧
      ((n.negative = true ∧ 1 ≤ n.whole.value ∧ n.whole.value ≤ 0x8000000000000000 ∧
          i = -(n.whole.value : Int)) ∨
        (n.negative = false ∧ i = n.whole.value)) := by
  unfold Number.integer? at h
  split at h
  · next hfraction hexponent =>
    refine ⟨hfraction, hexponent, ?_⟩
    simp only at h
    split at h
    · next hneg =>
      split at h
      · next hbounds => exact .inl ⟨hneg, hbounds.1, hbounds.2, (Option.some.inj h).symm⟩
      · cases h
    · next hneg =>
      split at h
      · exact .inr ⟨eq_false_of_ne_true hneg, (Option.some.inj h).symm⟩
      · cases h
  · cases h

/-- A literal that denotes an integer of 64 bits spells it. -/
theorem Number.Spells.of_integer? {n : Number} {i : Int64} (h : n.integer? = some i.toInt) :
    n.Spells i := by
  obtain ⟨hfraction, hexponent, ⟨hneg, hpos, _, hvalue⟩ | ⟨hneg, hvalue⟩⟩ := integer?_cases h
  · exact ⟨hfraction, hexponent, fun _ => by omega, by rw [if_pos hneg, hvalue]⟩
  · exact ⟨hfraction, hexponent, by simp [hneg], by simp [hneg, hvalue]⟩

/-- What a literal denotes is at least the least signed integer of 64 bits. -/
theorem Number.le_of_integer? {n : Number} {i : Int} (h : n.integer? = some i) :
    -0x8000000000000000 ≤ i := by
  obtain ⟨_, _, ⟨_, _, hle, hvalue⟩ | ⟨_, hvalue⟩⟩ := integer?_cases h <;> omega

namespace Decoder

/-- Strings are accepted and nothing else. -/
theorem text_eq_ok_iff {v : Json} {s : String} : text v.outline = .ok s ↔ v = .string s := by
  cases v <;> simp [text, outline]

/-- A number is accepted as the integer that its literal denotes, if that fits. -/
theorem integer_number_eq_ok_iff {n : Number} {i : Int64} :
    integer (.number n) = .ok i ↔ n.integer? = some i.toInt := by
  have hhigh := i.toInt_lt
  have hmaxValue : Int64.maxValue.toInt = 2 ^ 63 - 1 := Int64.toInt_maxValue
  rcases hn : n.integer? with _ | j
  · simp [integer, hn]
  · simp only [integer, hn, Option.some.injEq]
    by_cases hmax : j ≤ Int64.maxValue.toInt
    · have hround : (Int64.ofInt j).toInt = j :=
        Int64.toInt_ofInt_of_le (Number.le_of_integer? hn) (by omega)
      rw [if_pos hmax, Except.ok.injEq]
      exact ⟨fun h => by rw [← h, hround], fun h => by rw [h, Int64.ofInt_toInt]⟩
    · rw [if_neg hmax]
      exact ⟨nofun, fun h => absurd (by omega) hmax⟩

/-- **Literals of integers of 64 bits** are accepted and nothing else. -/
theorem integer_eq_ok_iff {v : Json} {i : Int64} :
    integer v.outline = .ok i ↔ ∃ n, v = .number n ∧ n.Spells i := by
  cases v with
  | number n =>
    simp only [outline, integer_number_eq_ok_iff, Json.number.injEq, exists_eq_left']
    exact ⟨.of_integer?, Number.Spells.integer?_eq⟩
  | _ => simp [integer, outline]

/-- The elements of a list are accepted one by one. -/
theorem mapM_outlines_eq_ok_iff {α : Type} {d : Decoder α} {vs : List Json} {xs : List α} :
    (outlines vs).mapM d = .ok xs ↔ List.Forall₂ (fun v x => d v.outline = .ok x) vs xs := by
  induction vs generalizing xs with
  | nil => cases xs <;> simp [outlines, pure, Except.pure]
  | cons v vs ih =>
    simp only [outlines, List.mapM_cons, bind_eq_ok_iff, ih, List.forall₂_cons_left_iff]
    constructor
    · rintro ⟨x, hx, ys, hys, heq⟩
      exact ⟨x, ys, hx, hys, (Except.ok.inj heq).symm⟩
    · rintro ⟨x, ys, hx, hys, rfl⟩
      exact ⟨x, hx, ys, hys, rfl⟩

/-- **Arrays** are accepted if their elements are, and nothing else. -/
theorem list_eq_ok_iff {α : Type} {d : Decoder α} {v : Json} {xs : List α} :
    list d v.outline = .ok xs ↔
      ∃ es, v = .array es ∧ List.Forall₂ (fun e x => d e.outline = .ok x) es xs := by
  cases v with
  | array es =>
    simp only [list, outline, bind_eq_ok_iff, mapM_outlines_eq_ok_iff, if_true, Except.ok.injEq,
      exists_eq_right, Json.array.injEq, exists_eq_left']
  | _ => simp [list, outline]

/-- **The word `null`** is accepted as nothing, and every other value as it would be. -/
theorem optional_eq_ok_iff {α : Type} {d : Decoder α} {v : Json} {x : Option α} :
    optional d v.outline = .ok x ↔
      (v = .null ∧ x = none) ∨ (v ≠ .null ∧ ∃ a, d v.outline = .ok a ∧ x = some a) := by
  cases v <;> cases x <;> simp [optional, outline, map_eq_ok_iff]

end Decoder

/-! ## Members of an object -/

/-- **The values that an object has under a key**, in order. -/
def valuesOf (name : String) (members : List (String × Json)) : List Json :=
  (members.filter fun m => m.1 == name).map Prod.snd

/-- A member counts for its own key. -/
theorem valuesOf_cons_self (name : String) (v : Json) (members : List (String × Json)) :
    valuesOf name ((name, v) :: members) = v :: valuesOf name members := by
  simp [valuesOf]

/-- A member counts for no other key. -/
theorem valuesOf_cons_of_ne {name key : String} (h : key ≠ name) (v : Json)
    (members : List (String × Json)) : valuesOf name ((key, v) :: members) = valuesOf name members := by
  simp [valuesOf, h]

/-- Members that are left out do not count for a key that none of them has. -/
theorem valuesOf_filter {name : String} {keep : String × Json → Bool} {members : List (String × Json)}
    (h : ∀ m, m.1 = name → keep m = true) :
    valuesOf name (members.filter keep) = valuesOf name members := by
  rw [valuesOf, List.filter_filter]
  congr 1
  refine List.filter_congr fun m _ => ?_
  by_cases hname : m.1 = name <;> simp [hname, h m]

/-- The values of a key are in the order of its members. -/
theorem perm_valuesOf {members others : List (String × Json)} (h : members.Perm others)
    (name : String) : (valuesOf name members).Perm (valuesOf name others) :=
  (h.filter _).map _

/-- **What becomes of a slot** when the values of its key are read: there may be none, or one if the
slot is empty. -/
inductive Filled {β : Type} (d : Decoder β) : Option β → List Json → Option β → Prop where
  /-- There is no value, and nothing happens. -/
  | kept (x : Option β) : Filled d x [] x
  /-- There is one value, and it is accepted. -/
  | read {v : Json} {b : β} (h : d v.outline = .ok b) : Filled d none [v] (some b)

/-- Without a value nothing happens to a slot. -/
theorem filled_nil_iff {β : Type} {d : Decoder β} {x y : Option β} : Filled d x [] y ↔ x = y :=
  ⟨fun h => by cases h; rfl, fun h => h ▸ .kept x⟩

/-- A slot that is not empty takes no value. -/
theorem not_filled_some_cons {β : Type} {d : Decoder β} {b : β} {v : Json} {vs : List Json}
    {y : Option β} : ¬Filled d (some b) (v :: vs) y := nofun

/-- An empty slot takes one value, and then no other one. -/
theorem filled_none_cons_iff {β : Type} {d : Decoder β} {v : Json} {vs : List Json}
    {y : Option β} :
    Filled d none (v :: vs) y ↔ ∃ b, d v.outline = .ok b ∧ Filled d (some b) vs y := by
  constructor
  · rintro (_ | ⟨h⟩)
    exact ⟨_, h, .kept _⟩
  · rintro ⟨b, h, hrest⟩
    cases hrest
    exact .read h

/-- An empty slot stays empty if there is no value. -/
theorem filled_none_none_iff {β : Type} {d : Decoder β} {vs : List Json} :
    Filled d none vs none ↔ vs = [] := by
  constructor
  · rintro ⟨⟩
    rfl
  · rintro rfl
    exact .kept none

/-- An empty slot is filled by the only value. -/
theorem filled_none_some_iff {β : Type} {d : Decoder β} {vs : List Json} {b : β} :
    Filled d none vs (some b) ↔ ∃ v, vs = [v] ∧ d v.outline = .ok b := by
  constructor
  · rintro (_ | ⟨h⟩)
    exact ⟨_, rfl, h⟩
  · rintro ⟨v, rfl, h⟩
    exact .read h

/-- An empty slot is filled by the only string. -/
theorem filled_text_iff {vs : List Json} {s : String} :
    Filled Decoder.text none vs (some s) ↔ vs = [.string s] := by
  simp [filled_none_some_iff, Decoder.text_eq_ok_iff]

/-- An empty slot is filled by the only literal of an integer of 64 bits. -/
theorem filled_integer_iff {vs : List Json} {i : Int64} :
    Filled Decoder.integer none vs (some i) ↔ ∃ n, vs = [.number n] ∧ n.Spells i := by
  simp only [filled_none_some_iff, Decoder.integer_eq_ok_iff]
  constructor
  · rintro ⟨_, rfl, n, rfl, h⟩
    exact ⟨n, rfl, h⟩
  · rintro ⟨n, rfl, h⟩
    exact ⟨_, rfl, n, rfl, h⟩

/-- An empty slot is filled by the only array, if its elements are accepted. -/
theorem filled_list_iff {α : Type} {d : Decoder α} {vs : List Json} {xs : List α} :
    Filled (Decoder.list d) none vs (some xs) ↔
      ∃ es, vs = [.array es] ∧ List.Forall₂ (fun e x => d e.outline = .ok x) es xs := by
  simp only [filled_none_some_iff, Decoder.list_eq_ok_iff]
  constructor
  · rintro ⟨_, rfl, es, rfl, h⟩
    exact ⟨es, rfl, h⟩
  · rintro ⟨es, rfl, h⟩
    exact ⟨_, rfl, es, rfl, h⟩

/-! ## Records -/

namespace Record

/-- **A record each of whose fields fills a slot of its own.** -/
structure Layout {σ α : Type} (r : Record σ α) {ι : Type} [DecidableEq ι] (β : ι → Type) where
  /-- The slots in the order of the declaration of their fields. -/
  order : List ι
  /-- The name of the field of a slot. -/
  name : ι → String
  /-- Whether the field of a slot has to be there. -/
  isRequired : ι → Bool
  /-- The decoder of a slot. -/
  decoder : (i : ι) → Decoder (β i)
  /-- What a draft has in its slots. -/
  slots : σ → (i : ι) → Option (β i)
  /-- Puts something into a slot of a draft. -/
  fill : (i : ι) → β i → σ → σ
  /-- Every slot has a field. -/
  mem_order : ∀ i, i ∈ order
  /-- Two slots have two names. -/
  name_injective : Function.Injective name
  /-- A draft is what it has in its slots. -/
  slots_injective : Function.Injective slots
  /-- Nothing is in the slots of the draft without any field. -/
  slots_blank : ∀ i, slots r.blank i = none
  /-- What is put into a slot is there, and in no other one. -/
  slots_fill : ∀ i b d, slots (fill i b d) = Function.update (slots d) i (some b)
  /-- The field of a slot is given if that is not empty, and reading it fills the slot. -/
  fields_eq : r.fields = order.map fun i =>
    { name := name i, isRequired := isRequired i, isGiven := fun d => (slots d i).isSome,
      read := fun o d => (decoder i o).map (fill i · d) }

namespace Layout

variable {σ α ι : Type} [DecidableEq ι] {r : Record σ α} {β : ι → Type} (L : r.Layout β)
include L

/-- A key that no slot has is that of no field. -/
theorem find?_of_ne {key : String} (h : ∀ i, L.name i ≠ key) :
    (r.fields.find? fun f => f.name == key) = none := by
  simp [L.fields_eq, h]

/-- The field of a name is that of its slot. -/
theorem find?_name (i : ι) : ∃ f, (r.fields.find? fun f => f.name == L.name i) = some f ∧
    (∀ d, f.isGiven d = (L.slots d i).isSome) ∧
      ∀ o d, f.read o d = (L.decoder i o).map (L.fill i · d) := by
  have hfind : (L.order.find? fun j => L.name j == L.name i) = some i := by
    obtain ⟨j, hj⟩ : ∃ j, (L.order.find? fun j => L.name j == L.name i) = some j :=
      Option.isSome_iff_exists.mp (List.find?_isSome.mpr ⟨i, L.mem_order i, beq_self_eq_true _⟩)
    have hname := List.find?_some hj
    rw [hj, L.name_injective (beq_iff_eq.mp hname)]
  rw [L.fields_eq, List.find?_map]
  exact ⟨_, congrArg _ hfind, fun _ => rfl, fun _ _ => rfl⟩

/-- A member that no field asks for changes nothing. -/
theorem readMember_of_ne {key : String} (h : ∀ i, L.name i ≠ key) (v : Json) (d : σ) :
    r.readMember d (.ofString key) v.outline = .ok d := by
  simp [readMember, L.find?_of_ne h, isWhole_outline]

/-- A second member of a key is refused. -/
theorem readMember_of_isSome {i : ι} {d : σ} (h : (L.slots d i).isSome = true) (v : Json) (d' : σ) :
    r.readMember d (.ofString (L.name i)) v.outline ≠ .ok d' := by
  obtain ⟨f, hfind, hgiven, _⟩ := L.find?_name i
  simp [readMember, hfind, hgiven, h]

/-- The first member of a key fills the slot of that key, if it is accepted. -/
theorem readMember_eq_ok_iff {i : ι} {d : σ} (h : L.slots d i = none) {v : Json} {d' : σ} :
    r.readMember d (.ofString (L.name i)) v.outline = .ok d' ↔
      ∃ b, L.decoder i v.outline = .ok b ∧ L.fill i b d = d' := by
  obtain ⟨f, hfind, hgiven, hread⟩ := L.find?_name i
  simp [readMember, hfind, hgiven, hread, h, map_eq_ok_iff]

/-- A value that fills its slot is read before the later ones of its key; the other slots do not
notice.

**Proof sketch.** Slot by slot. The slot that was filled has the value in front of the later ones of
its key, of which there must be none then. The values of every other key are the same with and
without this member, since the names of slots are distinct. -/
theorem forall_filled_fill_iff {i : ι} {b : β i} {d d' : σ} {v : Json}
    {members : List (String × Json)} (hslot : L.slots d i = none)
    (hb : L.decoder i v.outline = .ok b) :
    (∀ j, Filled (L.decoder j) (L.slots (L.fill i b d) j) (valuesOf (L.name j) members)
        (L.slots d' j)) ↔
      ∀ j, Filled (L.decoder j) (L.slots d j) (valuesOf (L.name j) ((L.name i, v) :: members))
        (L.slots d' j) := by
  refine forall_congr' fun j => ?_
  rw [L.slots_fill]
  by_cases heq : j = i
  · subst heq
    rw [Function.update_self, hslot, valuesOf_cons_self, filled_none_cons_iff, hb]
    simp
  · have hname : L.name i ≠ L.name j := fun h => heq (L.name_injective h).symm
    rw [Function.update_of_ne heq, valuesOf_cons_of_ne hname]

/-- One member is read, and then the later ones.

**Proof sketch.** Whether the key is that of a slot. If it is and the slot is empty, the value fills
it (`forall_filled_fill_iff`). If the slot was filled before, the member is refused, and so are two
values of one key. A member of no slot is skipped by both sides. -/
theorem forall_filled_cons_iff {key : String} {v : Json} {d d' : σ}
    {members : List (String × Json)} :
    (∃ e, r.readMember d (.ofString key) v.outline = .ok e ∧
        ∀ j, Filled (L.decoder j) (L.slots e j) (valuesOf (L.name j) members) (L.slots d' j)) ↔
      ∀ j, Filled (L.decoder j) (L.slots d j) (valuesOf (L.name j) ((key, v) :: members))
        (L.slots d' j) := by
  by_cases hkey : ∃ i, L.name i = key
  · obtain ⟨i, rfl⟩ := hkey
    rcases hslot : L.slots d i with _ | b
    · constructor
      · rintro ⟨e, he, hrest⟩
        obtain ⟨b, hb, rfl⟩ := (L.readMember_eq_ok_iff hslot).mp he
        exact (L.forall_filled_fill_iff hslot hb).mp hrest
      · intro hall
        have hi := hall i
        rw [hslot, valuesOf_cons_self] at hi
        obtain ⟨b, hb, _⟩ := filled_none_cons_iff.mp hi
        exact ⟨_, (L.readMember_eq_ok_iff hslot).mpr ⟨b, hb, rfl⟩,
          (L.forall_filled_fill_iff hslot hb).mpr hall⟩
    · -- The slot has been filled before, and both sides are false.
      have hsome : (L.slots d i).isSome = true := by rw [hslot]; rfl
      refine ⟨fun ⟨e, he, _⟩ => absurd he (L.readMember_of_isSome hsome v e), fun hall => ?_⟩
      have hi := hall i
      rw [hslot, valuesOf_cons_self] at hi
      exact absurd hi not_filled_some_cons
  · have hne : ∀ i, L.name i ≠ key := fun i heq => hkey ⟨i, heq⟩
    simp only [L.readMember_of_ne hne, Except.ok.injEq, exists_eq_left',
      valuesOf_cons_of_ne (hne _).symm]

/-- **Members are accepted if every slot accepts the values of its key**, in whatever order they
stand.

**Proof sketch.** Induction on the members, for every draft. One step reads the first member, and
what that means for the slots is `forall_filled_cons_iff`; behind the last one the drafts agree
because their slots do. -/
theorem readMembers_eq_ok_iff {d d' : σ} {members : List (String × Json)} :
    r.readMembers d (memberOutlines members) = .ok d' ↔
      ∀ i, Filled (L.decoder i) (L.slots d i) (valuesOf (L.name i) members) (L.slots d' i) := by
  induction members generalizing d with
  | nil =>
    simp only [memberOutlines, readMembers, Except.ok.injEq, valuesOf, List.filter_nil, List.map_nil,
      filled_nil_iff]
    exact ⟨fun h i => by rw [h], fun h => L.slots_injective (funext h)⟩
  | cons m members ih =>
    obtain ⟨key, v⟩ := m
    have hstep : r.readMembers d (memberOutlines ((key, v) :: members)) = .ok d' ↔
        ∃ e, r.readMember d (.ofString key) v.outline = .ok e ∧
          r.readMembers e (memberOutlines members) = .ok d' := by
      rw [memberOutlines, readMembers]
      cases r.readMember d (.ofString key) v.outline <;> simp
    simp only [hstep, ih, L.forall_filled_cons_iff]

/-- **The object form of a record** is accepted if every slot accepts the values of its key, and
the draft with these slots is a record. -/
theorem decoder_object_eq_ok_iff {members : List (String × Json)} {a : α} :
    r.decoder (Json.object members).outline = .ok a ↔
      ∃ d, (∀ i, Filled (L.decoder i) none (valuesOf (L.name i) members) (L.slots d i)) ∧
        r.build d = .ok a := by
  simp only [Record.decoder, outline, bind_eq_ok_iff, L.readMembers_eq_ok_iff, L.slots_blank, if_true]

end Layout

end Record

end Json

end CertDashboard
