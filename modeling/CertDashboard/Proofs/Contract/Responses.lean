import CertDashboard.Contract.Sample
import CertDashboard.Proofs.Api.Acceptance
import CertDashboard.Proofs.Certificate.Encoding
import CertDashboard.Proofs.Contract.Spelling

set_option autoImplicit false
set_option relaxedAutoImplicit false

/-!
# Responses that keep their schema

What the backend may send is said twice: by the agreed schemas, and by the decoders of the client.
They agree but for one thing. A schema takes every number without a fractional part for an integer,
however it is written and however large it is; a time has to be written as an integer of 64 bits.

## Main definitions

* `CertDashboard.Contract.contentOf` — the elements of the content of an inventory.
* `CertDashboard.Contract.IsDated` — an element with a time that can be read.

## Main results

* `CertDashboard.Contract.Meets.exists_decoder_iff` — a certificate that keeps its schema is
  accepted if it is dated.
* `CertDashboard.Contract.meets_cacheResponse` — an inventory that is written keeps its schema.
* `CertDashboard.Contract.responses_decode` — an inventory that keeps its schema is accepted if all
  of its certificates are dated, and an answer about authentication always is.
-/

namespace CertDashboard

open Json

namespace Contract

open Api

/-- **The elements of the content of an inventory**; it has none if the content is missing or
`null`. -/
def contentOf : Json → List Json
  | .object members =>
    match valuesOf "content" members with
    | .array elements :: _ => elements
    | _ => []
  | _ => []

/-- A string is all that the schema of a text asks for. -/
theorem Meets.text {v : Json} (h : Meets text v) : ∃ s, v = .string s :=
  h.shape_of_singleton List.mem_cons_self

/-- A storage path that keeps its schema says what it is. -/
theorem Meets.storagePath {v : Json} (h : Meets storagePath v) (hkeys : DistinctKeys v) :
    ∃ p, StoragePath.Spells p v := by
  obtain ⟨members, rfl⟩ := h.shape_of_singleton (k := .object) List.mem_cons_self
  obtain ⟨_, hbackend, hb⟩ := h.mandatory hkeys.keys "backend" Contract.text
    (by simp [Contract.storagePath])
  obtain ⟨_, hlocation, hl⟩ := h.mandatory hkeys.keys "location" Contract.text
    (by simp [Contract.storagePath])
  obtain ⟨backend, rfl⟩ := hb.text
  obtain ⟨location, rfl⟩ := hl.text
  exact ⟨⟨backend, location⟩, .object hbackend hlocation⟩

/-- The storage paths of a certificate that keeps its schema say what they are, if there are any. -/
theorem Meets.paths {members : List (String × Json)} (h : Meets certificate (.object members))
    (hkeys : DistinctKeys (.object members)) :
    ∃ ps, (valuesOf "paths" members = [] ∧ ps = []) ∨
      ∃ elements, valuesOf "paths" members = [.array elements] ∧
        List.Forall₂ (fun v p => StoragePath.Spells p v) elements ps := by
  rcases h.voluntary hkeys.keys "paths" [.kinds [.array], .elements Contract.storagePath]
    (by simp [Contract.certificate]) with hnone | ⟨_, hone, hlist⟩
  · exact ⟨[], .inl ⟨hnone, rfl⟩⟩
  · obtain ⟨elements, rfl⟩ := hlist.shape_of_singleton (k := .array) List.mem_cons_self
    have hparts := hkeys.valuesOf hone
    obtain ⟨ps, hps⟩ := exists_forall₂_iff.mpr fun e he =>
      (hlist.element Contract.storagePath (by simp) he).storagePath (hparts.element e he)
    exact ⟨ps, .inr ⟨elements, hone, hps⟩⟩

/-- **A certificate that keeps its schema says what it is** if its time is an integer of 64 bits. -/
theorem Meets.certificate {v : Json} (h : Meets certificate v) (hkeys : DistinctKeys v) :
    ∃ members n, v = .object members ∧ valuesOf "not_after" members = [.number n] ∧
      ∀ i, n.Spells i → ∃ c, Certificate.Spells c members := by
  obtain ⟨members, rfl⟩ := h.shape_of_singleton (k := .object) List.mem_cons_self
  obtain ⟨_, hname, htext⟩ := h.mandatory hkeys.keys "common_name" Contract.text
    (by simp [Contract.certificate])
  obtain ⟨_, hexpiry, hnumber⟩ := h.mandatory hkeys.keys "not_after" integer
    (by simp [Contract.certificate, Contract.mandatory, integer])
  obtain ⟨name, rfl⟩ := htext.text
  obtain ⟨n, rfl⟩ := hnumber.shape_of_singleton (k := .integer) List.mem_cons_self
  obtain ⟨ps, hps⟩ := h.paths hkeys
  exact ⟨members, n, rfl, hexpiry, fun i hi => ⟨⟨name, i, ps⟩, hname, ⟨n, hexpiry, hi⟩, hps⟩⟩

/-- **An inventory that keeps its schema** has a content that is missing, `null`, or a list of
certificates that keep theirs.

**Proof sketch.** The schema leaves no shape but an object (`shape_of_singleton`), and of its
voluntary member it asks for an array or `null`. The elements of the array keep the schema of
certificates and have distinct keys as parts of the whole. -/
theorem Meets.cacheResponse {v : Json} (h : Meets cacheResponse v) (hkeys : DistinctKeys v) :
    ∃ members, v = .object members ∧
      ((valuesOf "content" members = [] ∨ valuesOf "content" members = [.null]) ∨
        ∃ elements, valuesOf "content" members = [.array elements] ∧
          ∀ e ∈ elements, Meets Contract.certificate e ∧ DistinctKeys e) := by
  obtain ⟨members, rfl⟩ := h.shape_of_singleton (k := .object) List.mem_cons_self
  refine ⟨members, rfl, ?_⟩
  rcases h.voluntary hkeys.keys "content" [.kinds [.array, .null], .elements Contract.certificate]
    (by simp [Contract.cacheResponse]) with hnone | ⟨value, hone, hcontent⟩
  · exact .inl (.inl hnone)
  · obtain ⟨k, hk, hshape⟩ := hcontent.shape List.mem_cons_self
    simp only [List.mem_cons, List.not_mem_nil, or_false] at hk
    rcases hk with rfl | rfl
    · obtain ⟨elements, rfl⟩ := hshape
      have hparts := hkeys.valuesOf hone
      refine .inr ⟨elements, hone, fun e he => ⟨?_, hparts.element e he⟩⟩
      exact hcontent.element Contract.certificate (by simp) he
    · obtain rfl : value = .null := hshape
      exact .inl (.inr hone)

/-- **An answer about authentication that keeps its schema** has a name for the method, a string, or
none. -/
theorem Meets.infoResponse {v : Json} (h : Meets infoResponse v) (hkeys : DistinctKeys v) :
    ∃ members, v = .object members ∧
      (valuesOf "auth_type" members = [] ∨ ∃ s, valuesOf "auth_type" members = [.string s]) := by
  obtain ⟨members, rfl⟩ := h.shape_of_singleton (k := .object) List.mem_cons_self
  refine ⟨members, rfl, ?_⟩
  rcases h.voluntary hkeys.keys "auth_type" [.kinds [.string], .oneOf ["None", "Userpass"]]
    (by simp [Contract.infoResponse]) with hnone | ⟨_, hone, hmethod⟩
  · exact .inl hnone
  · obtain ⟨s, rfl⟩ := hmethod.shape_of_singleton (k := .string) List.mem_cons_self
    exact .inr ⟨s, hone⟩

/-- An inventory that keeps its schema is read as a list if its content is, element by element. -/
theorem inventoryOfText_eq_ok_iff {v : Json} (h : Meets cacheResponse v) (hkeys : DistinctKeys v)
    {cs : List Certificate} : inventoryOfText v.text = .ok cs ↔
      List.Forall₂ (fun e c => Certificate.decoder e.outline = .ok c) (contentOf v) cs := by
  obtain ⟨members, rfl, hnone | ⟨elements, hone, _⟩⟩ := h.cacheResponse hkeys
  · have hempty : contentOf (.object members) = [] := by
      rcases hnone with hnone | hnull <;> simp [contentOf, *]
    rw [inventoryOfText_object, hempty, List.forall₂_nil_left_iff]
    constructor
    · rintro (⟨_, hcs⟩ | ⟨elements, hone, _⟩)
      · exact hcs
      · rcases hnone with hnone | hnull <;> simp_all
    · exact fun hcs => .inl ⟨hnone, hcs⟩
  · simp [inventoryOfText_object, contentOf, hone]

/-- **An element of an inventory has a time that can be read**: one literal of an integer of 64
bits. -/
def IsDated (v : Json) : Prop :=
  ∃ members n i, v = .object members ∧ valuesOf "not_after" members = [.number n] ∧ n.Spells i

/-- A certificate that keeps its schema is accepted if and only if it is dated. -/
theorem Meets.exists_decoder_iff {v : Json} (h : Meets Contract.certificate v) (hkeys : DistinctKeys v) :
    (∃ c, Certificate.decoder v.outline = .ok c) ↔ IsDated v := by
  obtain ⟨members, n, rfl, hexpiry, hspells⟩ := h.certificate hkeys
  simp only [Certificate.decoder_eq_ok_iff]
  constructor
  · rintro ⟨c, hc⟩
    obtain ⟨n', hn', hi⟩ := hc.notAfter
    exact ⟨members, n', c.notAfter, rfl, hn', hi⟩
  · rintro ⟨members', n', i, hmembers, hn', hi⟩
    obtain rfl : members = members' := Json.object.inj hmembers
    obtain rfl : n = n' := by simpa [hexpiry] using hn'
    exact hspells i hi

/-- The content of an inventory that keeps its schema consists of certificates that keep theirs. -/
theorem Meets.of_mem_contentOf {v : Json} (h : Meets Contract.cacheResponse v)
    (hkeys : DistinctKeys v) {e : Json} (he : e ∈ contentOf v) :
    Meets Contract.certificate e ∧ DistinctKeys e := by
  obtain ⟨members, rfl, (hnone | hnull) | ⟨elements, hone, hall⟩⟩ := h.cacheResponse hkeys
  · simp [contentOf, hnone] at he
  · simp [contentOf, hnull] at he
  · exact hall e (by simpa [contentOf, hone] using he)

/-! ## Inventories that are written -/

/-- The value of a storage path keeps the schema of storage paths. -/
theorem allKept_storagePath (p : StoragePath) : AllKept p.value Contract.storagePath := by
  simp [StoragePath.value, Contract.storagePath, Contract.mandatory, Contract.text, AllKept,
    Rule.Kept, Kind.holds, Value.member?]

/-- The value of a certificate keeps the schema of certificates. -/
theorem allKept_certificate (c : Certificate) : AllKept c.value Contract.certificate := by
  simp [Certificate.value, Contract.certificate, Contract.mandatory, Contract.text, integer, AllKept,
    Rule.Kept, Kind.holds, isWhole, Value.member?, allKept_storagePath]

/-- A storage path that is written has distinct keys. -/
theorem distinctKeys_storagePath (p : StoragePath) : DistinctKeys p.toJson :=
  .object (by simp) (by simp [DistinctKeys.string])

/-- A certificate that is written has distinct keys. -/
theorem distinctKeys_certificate (c : Certificate) : DistinctKeys c.toJson := by
  have hpaths : DistinctKeys (.array (c.paths.map StoragePath.toJson)) :=
    .array (by simp [distinctKeys_storagePath])
  exact .object (by simp) (by simp [DistinctKeys.string, DistinctKeys.number, Json.ofInt, hpaths])

/-- A certificate that is written is dated. -/
theorem isDated_toJson (c : Certificate) : IsDated c.toJson :=
  ⟨_, _, c.notAfter, rfl, rfl, Number.spells_ofInt c.notAfter⟩

/-- **An inventory that is written keeps its schema**, and has distinct keys. -/
theorem meets_cacheResponse (cs : List Certificate) :
    Meets cacheResponse (.object [("content", .array (cs.map Certificate.toJson))]) ∧
      DistinctKeys (.object [("content", .array (cs.map Certificate.toJson))]) := by
  have hcontent : DistinctKeys (.array (cs.map Certificate.toJson)) :=
    .array (by simp [distinctKeys_certificate])
  refine ⟨⟨5, .object [("content", .array (cs.map Certificate.value))], ?_, ?_⟩,
    .object (by simp) (by simp [hcontent])⟩
  · refine Value.ofOutline?_object ?_
    rw [Value.ofMembers?_cons (Value.ofOutline?_array fun c _ => c.ofOutline?_toJson 0)]
    rfl
  · rw [violations_eq_nil_iff]
    simp [cacheResponse, AllKept, Rule.Kept, Kind.holds, Value.member?, allKept_certificate]

/-! ## Responses that are read -/

/-- **What keeps a schema can be read.** An inventory can if and only if all of its certificates are
dated, and then as its certificates, one by one; an answer about authentication always can.

**Proof sketch.** An inventory is read as the list of what its elements are read as
(`inventoryOfText_eq_ok_iff`), and of such an element the schema leaves open only whether its time
is an integer of the range (`exists_decoder_iff`). That an element is an object is by the schema,
too, since the decoder would take an array. The answer about authentication has a text or nothing as
its method, and both are read. -/
theorem responses_decode (v : Json) (hkeys : DistinctKeys v) :
    (Meets cacheResponse v →
      ((∃ cs, inventoryOfText v.text = .ok cs) ↔ ∀ e ∈ contentOf v, IsDated e) ∧
      ∀ cs, inventoryOfText v.text = .ok cs →
        List.Forall₂ (fun e c => ∃ members, e = .object members ∧ Certificate.Spells c members)
          (contentOf v) cs) ∧
    (Meets infoResponse v → ∃ m, authMethodOfText v.text = .ok m ∧
      (m = .userpass ↔
        ∃ members, v = .object members ∧ valuesOf "auth_type" members = [.string "Userpass"])) := by
  refine ⟨fun h => ⟨?_, ?_⟩, fun h => ?_⟩
  · -- A list of certificates exists if each element is one, and the schema leaves only its time open.
    simp only [inventoryOfText_eq_ok_iff h hkeys, exists_forall₂_iff]
    refine forall₂_congr fun e he => ?_
    obtain ⟨hmeets, hparts⟩ := h.of_mem_contentOf hkeys he
    exact hmeets.exists_decoder_iff hparts
  · intro cs hcs
    have hall := (inventoryOfText_eq_ok_iff h hkeys).mp hcs
    -- The decoder takes arrays for certificates, too; it is the schema that excludes them.
    have hmeets : ∀ e ∈ contentOf v, ∃ members, e = .object members := by
      intro e he
      exact (h.of_mem_contentOf hkeys he).1.shape_of_singleton (k := .object) List.mem_cons_self
    refine ((List.forall₂_and_left _ _).mpr ⟨hmeets, hall⟩).imp ?_
    rintro _ c ⟨⟨members, rfl⟩, hread⟩
    exact ⟨members, rfl, Certificate.decoder_eq_ok_iff.mp hread⟩
  · obtain ⟨members, rfl, hmethod⟩ := h.infoResponse hkeys
    simp only [authMethodOfText_object]
    rcases hmethod with hnone | ⟨s, hone⟩
    · exact ⟨_, .inl ⟨.inl hnone, rfl⟩, by simp [hnone]⟩
    · exact ⟨_, .inr ⟨s, hone, rfl⟩, by simp [AuthMethod.ofName, AuthMethod.name, hone]⟩

/-- Both samples of responses keep their schemas and can be read.

**Proof sketch.** The sample inventory is made of three certificates, so it keeps its schema and all
of them are dated. `responses_decode` is applied to both samples. -/
theorem responses_decode_samples :
    (Meets cacheResponse Sample.cacheResponse ∧ DistinctKeys Sample.cacheResponse ∧
      ∃ cs, inventoryOfText Sample.cacheResponse.text = .ok cs) ∧
    (Meets infoResponse Sample.infoResponse ∧ DistinctKeys Sample.infoResponse ∧
      authMethodOfText Sample.infoResponse.text = .ok .userpass) := by
  obtain ⟨hcache, hkeys⟩ := meets_cacheResponse [
    ⟨"api.example.com", 1750172800, [⟨"vault", "secret/tls/api"⟩]⟩,
    ⟨"www.example.com", 1750172800,
      [⟨"credhub", "/prod/www/tls"⟩, ⟨"opsmgr", "p-bosh/director"⟩]⟩,
    ⟨"mail.example.com", 1753456000, []⟩]
  have hinfo : Meets infoResponse Sample.infoResponse := by
    refine ⟨1, .object [("auth_type", .string "Userpass"), ("version", .string "0.6.0")], ?_, rfl⟩
    refine Value.ofOutline?_object ?_
    rw [Value.ofMembers?_cons (Value.ofOutline?_string _ _),
      Value.ofMembers?_cons (Value.ofOutline?_string _ _)]
    rfl
  have hinfoKeys : DistinctKeys Sample.infoResponse :=
    .object (by simp) (by simp [DistinctKeys.string])
  refine ⟨⟨hcache, hkeys, ?_⟩, hinfo, hinfoKeys, ?_⟩
  · refine ((responses_decode _ hkeys).1 hcache).1.mpr fun e he => ?_
    obtain ⟨c, _, rfl⟩ := List.mem_map.mp he
    exact isDated_toJson c
  · obtain ⟨m, hm, hiff⟩ := (responses_decode _ hinfoKeys).2 hinfo
    rw [hm, hiff.mpr ⟨_, rfl, rfl⟩]

end Contract

end CertDashboard
