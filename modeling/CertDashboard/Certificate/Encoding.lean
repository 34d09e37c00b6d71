import CertDashboard.Certificate
import CertDashboard.Json.Decode

set_option autoImplicit false
set_option relaxedAutoImplicit false

/-!
# Certificates as JSON

## Main definitions

* `CertDashboard.Certificate.toJson` — the value of a certificate, every field present.
* `CertDashboard.Certificate.decoder` — the decoder, for which the storage paths may be missing.
* `CertDashboard.Certificate.ofText` — a certificate from a whole text.
-/

namespace CertDashboard

open Json

namespace StoragePath

/-- The value of a storage path. -/
def toJson (p : StoragePath) : Json :=
  .object [("backend", .string p.backend), ("location", .string p.location)]

/-- A storage path of which some fields are known. -/
structure Draft where
  /-- Backend, if it is known. -/
  backend : Option String
  /-- Location, if it is known. -/
  location : Option String

/-- A storage path by its fields, both of them required. -/
def record : Record Draft StoragePath where
  name := "StoragePath"
  blank := ⟨none, none⟩
  fields := [
    { name := "backend", isRequired := true, isGiven := fun d => d.backend.isSome,
      read := fun o d => (Decoder.text o).map fun s => { d with backend := some s } },
    { name := "location", isRequired := true, isGiven := fun d => d.location.isSome,
      read := fun o d => (Decoder.text o).map fun s => { d with location := some s } }]
  build d := do
    let backend ← require "backend" d.backend
    let location ← require "location" d.location
    .ok ⟨backend, location⟩

end StoragePath

namespace Certificate

/-- **The value of a certificate.** -/
def toJson (c : Certificate) : Json :=
  .object [("common_name", .string c.commonName), ("not_after", .ofInt c.notAfter.toInt),
    ("paths", .array (c.paths.map StoragePath.toJson))]

/-- A certificate of which some fields are known. -/
structure Draft where
  /-- Common name, if it is known. -/
  commonName : Option String
  /-- Expiry, if it is known. -/
  notAfter : Option Int64
  /-- Storage paths, if they are known. -/
  paths : Option (List StoragePath)

/-- A certificate by its fields. Storage paths that are not given are none. -/
def record : Record Draft Certificate where
  name := "Certificate"
  blank := ⟨none, none, none⟩
  fields := [
    { name := "common_name", isRequired := true, isGiven := fun d => d.commonName.isSome,
      read := fun o d => (Decoder.text o).map fun s => { d with commonName := some s } },
    { name := "not_after", isRequired := true, isGiven := fun d => d.notAfter.isSome,
      read := fun o d => (Decoder.integer o).map fun n => { d with notAfter := some n } },
    { name := "paths", isRequired := false, isGiven := fun d => d.paths.isSome,
      read := fun o d =>
        (Decoder.list StoragePath.record.decoder o).map fun ps => { d with paths := some ps } }]
  build d := do
    let commonName ← require "common_name" d.commonName
    let notAfter ← require "not_after" d.notAfter
    .ok ⟨commonName, notAfter, d.paths.getD []⟩

/-- **The decoder of certificates.** -/
def decoder : Decoder Certificate :=
  record.decoder

/-- **A certificate from a whole text.** -/
def ofText (text : String) : Except Fault Certificate :=
  Json.decode decoder text.toList

/-- **The compact text of a certificate.** -/
def text (c : Certificate) : String :=
  c.toJson.text

end Certificate

end CertDashboard
