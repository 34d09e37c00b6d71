import CertDashboard.Api.Client
import CertDashboard.Proofs.Certificate.Acceptance

set_option autoImplicit false
set_option relaxedAutoImplicit false

/-!
# Which objects are responses

The client reads one field of each response, and that may be missing or `null`.

## Main definitions

* `CertDashboard.Api.IsSole` — a record of one such field.

## Main results

* `CertDashboard.Api.IsSole.decoder_eq_ok_iff` — what such a record is accepted as.
* `CertDashboard.Api.inventoryOfText_object`, `CertDashboard.Api.authMethodOfText_object` — what the
  text of an object is read as.
-/

namespace CertDashboard

open Json

namespace Api

/-! ## Records of one field -/

/-- **A record of one field**, which may be missing or `null`. -/
structure IsSole {β : Type} (r : Record (Option (Option β)) (Option β)) (name : String)
    (d : Decoder β) : Prop where
  /-- The draft without the field. -/
  blank : r.blank = none
  /-- The field. -/
  fields : r.fields = [
    { name := name, isRequired := false, isGiven := fun x => x.isSome,
      read := fun o _ => (Decoder.optional d o).map some }]
  /-- The record of a draft. -/
  build : ∀ x, r.build x = .ok (x.getD none)

/-- The answer about authentication is a record of one field. -/
theorem infoRecord_isSole : IsSole infoRecord "auth_type" Decoder.text :=
  ⟨rfl, rfl, fun _ => rfl⟩

/-- The inventory is a record of one field. -/
theorem cacheRecord_isSole :
    IsSole cacheRecord "content" (Decoder.list Certificate.decoder) :=
  ⟨rfl, rfl, fun _ => rfl⟩

namespace IsSole

variable {β : Type} {r : Record (Option (Option β)) (Option β)} {name : String} {d : Decoder β}

/-- The draft of a record of one field is its only slot. -/
def layout (h : IsSole r name d) : r.Layout fun _ : Unit => Option β where
  order := [()]
  name _ := name
  isRequired _ := false
  decoder _ := Decoder.optional d
  slots x _ := x
  fill _ x _ := some x
  mem_order _ := List.mem_cons_self
  name_injective _ _ _ := rfl
  slots_injective _ _ heq := congrFun heq ()
  slots_blank _ := h.blank
  slots_fill _ _ _ := by
    funext j
    rfl
  fields_eq := h.fields

/-- **A record of one field is accepted** if that is missing, `null`, or accepted.

**Proof sketch.** The layout of the record has one slot, which is empty, has read nothing, or has
read a value. These are the three ways on the right: a slot that was not filled has no values
(`filled_none_none_iff`), a filled one has one value, and an optional decoder takes `null` for
nothing (`Decoder.optional_eq_ok_iff`). -/
theorem decoder_eq_ok_iff (h : IsSole r name d) {members : List (String × Json)} {x : Option β} :
    r.decoder (Json.object members).outline = .ok x ↔
      ((valuesOf name members = [] ∨ valuesOf name members = [.null]) ∧ x = none) ∨
        ∃ v b, valuesOf name members = [v] ∧ v ≠ .null ∧ d v.outline = .ok b ∧ x = some b := by
  rw [h.layout.decoder_object_eq_ok_iff]
  constructor
  · rintro ⟨draft, hslots, hbuild⟩
    obtain rfl : draft.getD none = x := Except.ok.inj ((h.build draft).symm.trans hbuild)
    rcases draft with _ | y
    · exact .inl ⟨.inl (filled_none_none_iff.mp (hslots ())), rfl⟩
    · obtain ⟨v, hone, hread⟩ := filled_none_some_iff.mp (hslots ())
      rcases Decoder.optional_eq_ok_iff.mp hread with ⟨rfl, hnone⟩ | ⟨hne, b, hb, hsome⟩
      · exact .inl ⟨.inr hone, hnone⟩
      · exact .inr ⟨v, b, hone, hne, hb, hsome⟩
  · rintro (⟨hnone | hnull, rfl⟩ | ⟨v, b, hone, hne, hb, rfl⟩)
    · exact ⟨none, fun _ => filled_none_none_iff.mpr hnone, h.build none⟩
    · have hread := (Decoder.optional_eq_ok_iff (d := d)).mpr (.inl ⟨rfl, rfl⟩)
      exact ⟨some none, fun _ => filled_none_some_iff.mpr ⟨_, hnull, hread⟩, h.build _⟩
    · have hread := Decoder.optional_eq_ok_iff.mpr (.inr ⟨hne, b, hb, rfl⟩)
      exact ⟨some (some b), fun _ => filled_none_some_iff.mpr ⟨v, hone, hread⟩, h.build _⟩

end IsSole

/-! ## Whole texts -/

/-- **The text of an object is an inventory** if its content is missing, `null`, or an array of
certificates.

**Proof sketch.** The printed object is read back (`decode_render`), and its record has the content
as its only field (`decoder_eq_ok_iff`). A content that is read is an array, each of whose elements
is read (`Decoder.list_eq_ok_iff`); with nothing there the inventory is empty. -/
theorem inventoryOfText_object {members : List (String × Json)} {cs : List Certificate} :
    inventoryOfText (Json.object members).text = .ok cs ↔
      ((valuesOf "content" members = [] ∨ valuesOf "content" members = [.null]) ∧ cs = []) ∨
        ∃ elements, valuesOf "content" members = [.array elements] ∧
          List.Forall₂ (fun e c => Certificate.decoder e.outline = .ok c) elements cs := by
  rw [inventoryOfText, toList_text, decode_render, map_eq_ok_iff]
  simp only [cacheRecord_isSole.decoder_eq_ok_iff]
  constructor
  · rintro ⟨_, ⟨hnone, rfl⟩ | ⟨v, b, hone, _, hread, rfl⟩, rfl⟩
    · exact .inl ⟨hnone, rfl⟩
    · obtain ⟨elements, rfl, hall⟩ := Decoder.list_eq_ok_iff.mp hread
      exact .inr ⟨elements, hone, hall⟩
  · rintro (⟨hnone, rfl⟩ | ⟨elements, hone, hall⟩)
    · exact ⟨none, .inl ⟨hnone, rfl⟩, rfl⟩
    · have hread := Decoder.list_eq_ok_iff.mpr ⟨elements, rfl, hall⟩
      exact ⟨some cs, .inr ⟨_, cs, hone, nofun, hread, rfl⟩, rfl⟩

/-- **The text of an object says how users prove who they are** if it names the method, or has
nothing or `null` in the place of the name.

**Proof sketch.** The printed object is read back (`decode_render`), and its record has the method
as its only field (`decoder_eq_ok_iff`). A field that is read is a text (`Decoder.text_eq_ok_iff`),
which names the method. -/
theorem authMethodOfText_object {members : List (String × Json)} {m : AuthMethod} :
    authMethodOfText (Json.object members).text = .ok m ↔
      ((valuesOf "auth_type" members = [] ∨ valuesOf "auth_type" members = [.null]) ∧
          m = .anonymous) ∨
        ∃ s, valuesOf "auth_type" members = [.string s] ∧ m = AuthMethod.ofName (some s) := by
  rw [authMethodOfText, toList_text, decode_render, map_eq_ok_iff]
  simp only [infoRecord_isSole.decoder_eq_ok_iff]
  constructor
  · rintro ⟨_, ⟨hnone, rfl⟩ | ⟨v, s, hone, _, hread, rfl⟩, rfl⟩
    · exact .inl ⟨hnone, rfl⟩
    · obtain rfl := Decoder.text_eq_ok_iff.mp hread
      exact .inr ⟨s, hone, rfl⟩
  · rintro (⟨hnone, rfl⟩ | ⟨s, hone, rfl⟩)
    · exact ⟨none, .inl ⟨hnone, rfl⟩, rfl⟩
    · have hread : Decoder.text (Json.string s).outline = .ok s := Decoder.text_eq_ok_iff.mpr rfl
      exact ⟨some s, .inr ⟨_, s, hone, nofun, hread, rfl⟩, rfl⟩

end Api

end CertDashboard
