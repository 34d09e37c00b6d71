import CertDashboard.Certificate.Encoding
import CertDashboard.Proofs.Json.Acceptance

set_option autoImplicit false
set_option relaxedAutoImplicit false

/-!
# Which objects are certificates

## Main definitions

* `CertDashboard.StoragePath.Spells`, `CertDashboard.Certificate.Spells` — which values say what a
  storage path is, and which members say what a certificate is.
* `CertDashboard.Certificate.known` — the members that a certificate is made of.

## Main results

* `CertDashboard.StoragePath.decoder_eq_ok_iff`, `CertDashboard.Certificate.decoder_eq_ok_iff` —
  exactly these are accepted, and as exactly that.
* `CertDashboard.Certificate.ofText_object` — the same for the text of an object; nothing but its
  known members matters, in any order.
-/

namespace CertDashboard

open Json

namespace StoragePath

/-- **Which values say what a storage path is**: an object with one backend and one location, both
of them strings, and anything else; or an array of two strings. -/
inductive Spells (p : StoragePath) : Json → Prop where
  /-- An object. -/
  | object {members : List (String × Json)}
      (backend : valuesOf "backend" members = [.string p.backend])
      (location : valuesOf "location" members = [.string p.location]) : Spells p (.object members)
  /-- An array. -/
  | array : Spells p (.array [.string p.backend, .string p.location])

/-- A slot of the draft of a storage path. -/
inductive Slot where
  /-- The backend. -/
  | backend
  /-- The location. -/
  | location
  deriving DecidableEq

/-- Each field of a storage path fills a slot of its own. -/
def layout : record.Layout fun _ : Slot => String where
  order := [.backend, .location]
  name
    | .backend => "backend"
    | .location => "location"
  isRequired _ := true
  decoder _ := Decoder.text
  slots d
    | .backend => d.backend
    | .location => d.location
  fill i s d :=
    match i with
    | .backend => { d with backend := some s }
    | .location => { d with location := some s }
  mem_order i := by cases i <;> simp
  name_injective i j h := by cases i <;> cases j <;> simp_all
  slots_injective d e h := by
    have hbackend := congrFun h .backend
    have hlocation := congrFun h .location
    cases d
    cases e
    simp_all
  slots_blank i := by cases i <;> rfl
  slots_fill i s d := by
    funext j
    cases i <;> cases j <;> rfl
  fields_eq := rfl

/-- A draft is a storage path if both of its slots are filled. -/
theorem build_eq_ok_iff {d : Draft} {p : StoragePath} :
    record.build d = .ok p ↔ d = ⟨some p.backend, some p.location⟩ := by
  obtain ⟨backend, location⟩ := d
  obtain ⟨b, l⟩ := p
  cases backend <;> cases location <;> simp [record, require, bind, Except.bind]

/-- The object form of a storage path. -/
theorem decoder_object_eq_ok_iff {members : List (String × Json)} {p : StoragePath} :
    record.decoder (Json.object members).outline = .ok p ↔
      valuesOf "backend" members = [.string p.backend] ∧
        valuesOf "location" members = [.string p.location] := by
  simp only [layout.decoder_object_eq_ok_iff, build_eq_ok_iff, exists_eq_right]
  constructor
  · intro h
    exact ⟨filled_text_iff.mp (h .backend), filled_text_iff.mp (h .location)⟩
  · rintro ⟨hbackend, hlocation⟩ i
    cases i with
    | backend => exact filled_text_iff.mpr hbackend
    | location => exact filled_text_iff.mpr hlocation

/-- The array form of a storage path. -/
theorem decoder_array_eq_ok_iff {elements : List Json} {p : StoragePath} :
    record.decoder (Json.array elements).outline = .ok p ↔
      elements = [.string p.backend, .string p.location] := by
  obtain ⟨backend, location⟩ := p
  simp only [Record.decoder, outline]
  rcases elements with _ | ⟨v, _ | ⟨w, _ | ⟨u, elements⟩⟩⟩
  · simp [outlines, record, Record.readElements, bind, Except.bind]
  · cases htext : Decoder.text v.outline <;>
      simp [outlines, record, Record.readElements, bind, Except.bind, Except.map, htext]
  · simp only [List.cons.injEq, and_true, ← Decoder.text_eq_ok_iff]
    cases hv : Decoder.text v.outline <;> cases hw : Decoder.text w.outline <;>
      simp [outlines, record, Record.readElements, require, bind, Except.bind, Except.map, hv, hw]
  · cases hv : Decoder.text v.outline <;> cases hw : Decoder.text w.outline <;>
      simp [outlines, record, Record.readElements, bind, Except.bind, Except.map, hv, hw]

/-- **A storage path is accepted** if the value says what it is, and as exactly that. -/
theorem decoder_eq_ok_iff {v : Json} {p : StoragePath} :
    record.decoder v.outline = .ok p ↔ Spells p v := by
  cases v with
  | object members =>
    rw [decoder_object_eq_ok_iff]
    exact ⟨fun ⟨hbackend, hlocation⟩ => .object hbackend hlocation,
      fun | .object hbackend hlocation => ⟨hbackend, hlocation⟩⟩
  | array elements =>
    rw [decoder_array_eq_ok_iff]
    exact ⟨fun h => h ▸ .array, fun | .array => rfl⟩
  | _ => exact ⟨nofun, nofun⟩

end StoragePath

namespace Certificate

/-- **Which members say what a certificate is**: one common name, a string; one expiry, a literal of
an integer of 64 bits; and at most one list of storage paths, an array each of whose elements says
what a storage path is. All other members say nothing. -/
structure Spells (c : Certificate) (members : List (String × Json)) : Prop where
  /-- There is one common name. -/
  commonName : valuesOf "common_name" members = [.string c.commonName]
  /-- There is one expiry. -/
  notAfter : ∃ n, valuesOf "not_after" members = [.number n] ∧ n.Spells c.notAfter
  /-- There is one list of storage paths, or none. -/
  paths : (valuesOf "paths" members = [] ∧ c.paths = []) ∨
    ∃ elements, valuesOf "paths" members = [.array elements] ∧
      List.Forall₂ (fun v p => StoragePath.Spells p v) elements c.paths

/-- A slot of the draft of a certificate. -/
inductive Slot where
  /-- The common name. -/
  | commonName
  /-- The expiry. -/
  | notAfter
  /-- The storage paths. -/
  | paths
  deriving DecidableEq

/-- What a slot of the draft of a certificate holds. -/
def Slot.Held : Slot → Type
  | .commonName => String
  | .notAfter => Int64
  | .paths => List StoragePath

/-- Each field of a certificate fills a slot of its own. -/
def layout : record.Layout Slot.Held where
  order := [.commonName, .notAfter, .paths]
  name
    | .commonName => "common_name"
    | .notAfter => "not_after"
    | .paths => "paths"
  isRequired
    | .commonName | .notAfter => true
    | .paths => false
  decoder
    | .commonName => Decoder.text
    | .notAfter => Decoder.integer
    | .paths => Decoder.list StoragePath.record.decoder
  slots d
    | .commonName => d.commonName
    | .notAfter => d.notAfter
    | .paths => d.paths
  fill
    | .commonName, s, d => { d with commonName := some s }
    | .notAfter, n, d => { d with notAfter := some n }
    | .paths, ps, d => { d with paths := some ps }
  mem_order i := by cases i <;> simp
  name_injective i j h := by cases i <;> cases j <;> simp_all
  slots_injective d e h := by
    have hname := congrFun h .commonName
    have hexpiry := congrFun h .notAfter
    have hpaths := congrFun h .paths
    cases d
    cases e
    simp_all
  slots_blank i := by cases i <;> rfl
  slots_fill i b d := by
    funext j
    cases i <;> cases j <;> rfl
  fields_eq := rfl

/-- A draft is a certificate if its required slots are filled. -/
theorem build_eq_ok_iff {d : Draft} {c : Certificate} :
    record.build d = .ok c ↔ d.commonName = some c.commonName ∧ d.notAfter = some c.notAfter ∧
      d.paths.getD [] = c.paths := by
  obtain ⟨commonName, notAfter, paths⟩ := d
  obtain ⟨n, t, ps⟩ := c
  cases commonName <;> cases notAfter <;> simp [record, require, bind, Except.bind]

/-- **A certificate is accepted** if the members say what it is, and as exactly that.

**Proof sketch.** A record is accepted if every slot is filled by the values of its key
(`layout.decoder_object_eq_ok_iff`), and then built from the slots (`build_eq_ok_iff`). For the
three keys, being filled is having one text, one integer, and one list or nothing, which is what
`Spells` says. In either direction only the missing paths are a case of their own. -/
theorem decoder_eq_ok_iff {members : List (String × Json)} {c : Certificate} :
    decoder (Json.object members).outline = .ok c ↔ Spells c members := by
  have hpaths : ∀ {ps}, Filled (Decoder.list StoragePath.record.decoder) none
      (valuesOf "paths" members) (some ps) ↔ ∃ elements,
        valuesOf "paths" members = [.array elements] ∧
          List.Forall₂ (fun v p => StoragePath.Spells p v) elements ps := by
    intro ps
    simp only [filled_list_iff, StoragePath.decoder_eq_ok_iff]
  rw [decoder, layout.decoder_object_eq_ok_iff]
  constructor
  · rintro ⟨⟨commonName, notAfter, paths⟩, hslots, hbuild⟩
    obtain ⟨hname, hexpiry, hps⟩ := build_eq_ok_iff.mp hbuild
    simp only at hname hexpiry hps
    subst hname hexpiry
    refine ⟨filled_text_iff.mp (hslots .commonName), filled_integer_iff.mp (hslots .notAfter), ?_⟩
    rcases paths with _ | ps
    · exact .inl ⟨filled_none_none_iff.mp (hslots .paths), hps.symm⟩
    · obtain rfl : ps = c.paths := hps
      exact .inr (hpaths.mp (hslots .paths))
  · rintro ⟨hname, hexpiry, hlist⟩
    have hdraft : ∃ paths, Filled (Decoder.list StoragePath.record.decoder) none
        (valuesOf "paths" members) paths ∧ paths.getD [] = c.paths := by
      rcases hlist with ⟨hnone, hempty⟩ | hsome
      · exact ⟨none, filled_none_none_iff.mpr hnone, hempty.symm⟩
      · exact ⟨some c.paths, hpaths.mpr hsome, rfl⟩
    obtain ⟨paths, hfilled, hps⟩ := hdraft
    refine ⟨⟨some c.commonName, some c.notAfter, paths⟩, fun i => ?_,
      build_eq_ok_iff.mpr ⟨rfl, rfl, hps⟩⟩
    cases i with
    | commonName => exact filled_text_iff.mpr hname
    | notAfter => exact filled_integer_iff.mpr hexpiry
    | paths => exact hfilled

/-! ## Whole texts -/

/-- **The members that a certificate is made of.** -/
def known (members : List (String × Json)) : List (String × Json) :=
  members.filter fun m => ["common_name", "not_after", "paths"].contains m.1

/-- What members say depends on the known ones, and on their order among those of one key.

**Proof sketch.** The values of a known key are, up to their order, the same in both lists
(`perm_valuesOf`). `Spells` asks for one value of a key or for none, and a permutation of a list so
short is the list itself. -/
theorem Spells.of_perm {c : Certificate} {members others : List (String × Json)}
    (h : Spells c members) (hperm : (known others).Perm (known members)) : Spells c others := by
  have hvalues : ∀ name ∈ ["common_name", "not_after", "paths"],
      (valuesOf name others).Perm (valuesOf name members) := by
    intro name hname
    have hkeep : ∀ m : String × Json, m.1 = name →
        ["common_name", "not_after", "paths"].contains m.1 = true :=
      fun m hm => List.contains_iff_mem.mpr (hm ▸ hname)
    have := perm_valuesOf hperm name
    rwa [known, known, valuesOf_filter hkeep, valuesOf_filter hkeep] at this
  have hname := hvalues "common_name" (by simp)
  have hexpiry := hvalues "not_after" (by simp)
  have hpaths := hvalues "paths" (by simp)
  obtain ⟨n, hn, hspells⟩ := h.notAfter
  rw [h.commonName, List.perm_singleton] at hname
  rw [hn, List.perm_singleton] at hexpiry
  refine ⟨hname, ⟨n, hexpiry, hspells⟩, ?_⟩
  rcases h.paths with ⟨hnone, hempty⟩ | ⟨elements, hone, hall⟩
  · rw [hnone, List.perm_nil] at hpaths
    exact .inl ⟨hpaths, hempty⟩
  · rw [hone, List.perm_singleton] at hpaths
    exact .inr ⟨elements, hpaths, hall⟩

/-- **The text of an object is a certificate** if its members say what it is, and it is exactly
that. What is read is the same for all objects with the same known members, in any order and among
any other ones.

**Proof sketch.** The printed object is read back as its outline (`decode_render`), so that
acceptance is that of the decoder (`decoder_eq_ok_iff`). What is read is determined by `Spells`,
which does not notice the order and the other members (`Spells.of_perm`). -/
theorem ofText_object (members : List (String × Json)) :
    (∀ c, ofText (Json.object members).text = .ok c ↔ Spells c members) ∧
      ∀ others, (known others).Perm (known members) →
        (ofText (Json.object others).text).toOption =
          (ofText (Json.object members).text).toOption := by
  have hread : ∀ ms c, ofText (Json.object ms).text = .ok c ↔ Spells c ms := by
    intro ms c
    rw [ofText, toList_text, decode_render, decoder_eq_ok_iff]
  refine ⟨hread members, fun others hperm => ?_⟩
  have hsome : ∀ ms c, (ofText (Json.object ms).text).toOption = some c ↔ Spells c ms := by
    intro ms c
    rw [← hread]
    cases ofText (Json.object ms).text <;> simp [Except.toOption]
  refine Option.ext fun c => ?_
  rw [hsome, hsome]
  exact ⟨fun h => h.of_perm hperm.symm, fun h => h.of_perm hperm⟩

/-- Members of a certificate with storage paths in both forms, among others. -/
def mingled : List (String × Json) :=
  [("serial", .null), ("paths", .array [.array [.string "vault", .string "a"],
      .object [("location", .string "b"), ("note", .null), ("backend", .string "credhub")]]),
    ("serial", .bool true), ("not_after", .ofInt (-1)), ("common_name", .string "example.com")]

/-- They say what a certificate is, also the other way round and with one more of the others.

**Proof sketch.** The members spell the certificate part by part. The reversed list with one more
member has the same known ones up to their order, so `ofText_object` applies to it. -/
theorem ofText_object_mingled :
    (known (("serial", .string "") :: mingled.reverse)).Perm (known mingled) ∧
      ofText (Json.object mingled).text =
        .ok ⟨"example.com", -1, [⟨"vault", "a"⟩, ⟨"credhub", "b"⟩]⟩ ∧
      (ofText (Json.object (("serial", .string "") :: mingled.reverse)).text).toOption =
        some ⟨"example.com", -1, [⟨"vault", "a"⟩, ⟨"credhub", "b"⟩]⟩ := by
  have hskip : known (("serial", .string "") :: mingled.reverse) = known mingled.reverse := rfl
  have hperm : (known (("serial", .string "") :: mingled.reverse)).Perm (known mingled) := by
    rw [hskip]
    exact (List.reverse_perm mingled).filter _
  have hspells : Spells ⟨"example.com", -1, [⟨"vault", "a"⟩, ⟨"credhub", "b"⟩]⟩ mingled :=
    ⟨rfl, ⟨_, rfl, Number.spells_ofInt (-1)⟩,
      .inr ⟨_, rfl, .cons .array (.cons (.object rfl rfl) .nil)⟩⟩
  obtain ⟨hread, hsame⟩ := ofText_object mingled
  have hok := (hread _).mpr hspells
  exact ⟨hperm, hok, by rw [hsame _ hperm, hok]; rfl⟩

end Certificate

end CertDashboard
