import CertDashboard.Certificate.Encoding
import CertDashboard.Proofs.Certificate.Acceptance
import CertDashboard.Proofs.Json.Values

set_option autoImplicit false
set_option relaxedAutoImplicit false

/-!
# Certificates that are written and read

## Main definitions

* `CertDashboard.Certificate.value` — a certificate as a value without its spelling.

## Main results

* `CertDashboard.Certificate.ofText_text` — a certificate that is written is read back, and so two
  certificates have two texts.
* `CertDashboard.Certificate.ofOutline?_toJson`, `CertDashboard.Certificate.render_value` — read
  without its spelling and written again, it has the text that it had.
-/

namespace CertDashboard

open Json

namespace StoragePath

/-- A storage path as a value without its spelling. -/
def value (p : StoragePath) : Value :=
  .object [("backend", .string p.backend), ("location", .string p.location)]

/-- A storage path that is written says what it is. -/
theorem spells_toJson (p : StoragePath) : Spells p p.toJson :=
  .object rfl rfl

/-- A storage path that is written has its value. -/
theorem ofOutline?_toJson (room : Nat) (p : StoragePath) :
    Value.ofOutline? (room + 1) p.toJson.outline = some p.value := by
  refine Value.ofOutline?_object ?_
  rw [Value.ofMembers?_cons (Value.ofOutline?_string _ _),
    Value.ofMembers?_cons (Value.ofOutline?_string _ _)]
  rfl

/-- The value of a storage path is written as that is. -/
theorem render_value (p : StoragePath) : p.value.render = p.toJson.render := by
  simp [value, toJson, Value.render, Value.renderMembers, Json.render, Json.renderMembers]

end StoragePath

namespace Certificate

/-- **A certificate as a value without its spelling.** -/
def value (c : Certificate) : Value :=
  .object [("common_name", .string c.commonName),
    ("not_after", .number (.integer c.notAfter.toInt)),
    ("paths", .array (c.paths.map StoragePath.value))]

/-- A certificate that is written is decoded to itself: its members say what it is. -/
theorem decoder_toJson (c : Certificate) : decoder c.toJson.outline = .ok c := by
  have hpaths : List.Forall₂ (fun v p => StoragePath.Spells p v) (c.paths.map StoragePath.toJson)
      c.paths :=
    List.forall₂_map_left_iff.mpr (List.forall₂_same.mpr fun p _ => p.spells_toJson)
  exact decoder_eq_ok_iff.mpr
    ⟨rfl, ⟨_, rfl, Number.spells_ofInt c.notAfter⟩, .inr ⟨_, rfl, hpaths⟩⟩

/-- A certificate that is written has its value. -/
theorem ofOutline?_toJson (room : Nat) (c : Certificate) :
    Value.ofOutline? (room + 3) c.toJson.outline = some c.value := by
  have hlow := c.notAfter.le_toInt
  have hhigh := c.notAfter.toInt_lt
  have hpaths : Value.ofOutline? (room + 2) (Json.array (c.paths.map StoragePath.toJson)).outline =
      some (.array (c.paths.map StoragePath.value)) :=
    Value.ofOutline?_array fun p _ => p.ofOutline?_toJson room
  refine Value.ofOutline?_object ?_
  rw [Value.ofMembers?_cons (Value.ofOutline?_string _ _),
    Value.ofMembers?_cons (Value.ofOutline?_ofInt _ hlow (by omega)),
    Value.ofMembers?_cons hpaths]
  rfl

/-- The value of a certificate is written as that is. -/
theorem render_value (c : Certificate) : c.value.render = c.toJson.render := by
  simp [value, toJson, Value.render, Value.renderMembers, Json.render, Json.renderMembers,
    Value.render_ofInt, Value.renderElements_map c.paths fun p _ => p.render_value]

/-- **The text of the value of a certificate is read as that certificate.** -/
theorem ofText_render_value (c : Certificate) :
    ofText (String.ofList c.value.render) = .ok c := by
  rw [ofText, String.toList_ofList, render_value, decode_render, decoder_toJson]

/-- **A certificate that is written is read back**, whatever its texts and its time are; so two
certificates have two texts. -/
theorem ofText_text :
    (∀ c : Certificate, ofText c.text = .ok c) ∧ Function.Injective text := by
  have hread : ∀ c : Certificate, ofText c.text = .ok c := by
    intro c
    rw [ofText, text, toList_text, decode_render, decoder_toJson]
  refine ⟨hread, fun c d h => ?_⟩
  have heq : (.ok c : Except Fault Certificate) = .ok d := by
    rw [← hread c, h, hread d]
  exact Except.ok.inj heq

end Certificate

end CertDashboard
