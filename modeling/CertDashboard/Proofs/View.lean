import CertDashboard.View
import CertDashboard.Proofs.Certificate.Encoding

set_option autoImplicit false
set_option relaxedAutoImplicit false

/-!
# What a template gets to read

The parameters of a view are one JSON text. A template that reads it finds the certificates of all
bands, in order, and each of them says what the certificate says that it was made of.

## Main definitions

* `CertDashboard.View.value` — the parameters as a value without its spelling.
* `CertDashboard.View.listed?` — the certificates that a text of parameters lists, read back.

## Main results

* `CertDashboard.View.ofText?_params` — the parameters of every view are JSON.
* `CertDashboard.View.listed?_certificates` — the parameters of bands list their certificates.

## Design

Parameters nest seven containers at most, whatever the bands are: far less than a reader takes.
-/

namespace CertDashboard

open Json

/-! ## Values -/

namespace BandView

/-- A band as a value without its spelling. -/
def value (b : BandView) : Value :=
  .object [("certs", .array (b.certificates.map Certificate.value)), ("color", .string b.color),
    ("cutoff", .number (.integer b.cutoff.toInt)), ("header", .string b.header)]

/-- A band that is written has its value. -/
theorem ofOutline?_toJson (room : Nat) (b : BandView) :
    Value.ofOutline? (room + 5) b.toJson.outline = some b.value := by
  have hlow := b.cutoff.le_toInt
  have hhigh := b.cutoff.toInt_lt
  have hcertificates : Value.ofOutline? (room + 4)
      (Json.array (b.certificates.map Certificate.toJson)).outline =
        some (.array (b.certificates.map Certificate.value)) :=
    Value.ofOutline?_array fun c _ => c.ofOutline?_toJson room
  refine Value.ofOutline?_object ?_
  rw [Value.ofMembers?_cons (Value.ofOutline?_string _ _),
    Value.ofMembers?_cons (Value.ofOutline?_ofInt _ hlow (by omega)),
    Value.ofMembers?_cons (Value.ofOutline?_string _ _), Value.ofMembers?_cons hcertificates]
  rfl

end BandView

namespace View

/-- **The parameters of a view as a value without its spelling.** -/
def value : View → Value
  | .login none => .object []
  | .login (some message) => .object [("error_message", .string message)]
  | .certificates bands showAll =>
    .object [("lists", .array (bands.map BandView.value)), ("show_all", .bool showAll)]
  | .noCertificates showAll => .object [("show_all", .bool showAll)]

/-- The parameters of a view that are written have their value.

**Proof sketch.** By the kinds of views. The members are read one after another
(`Value.ofMembers?_cons`); those of the bands are a list, each of whose elements is read by its own
lemma. -/
theorem ofOutline?_toJson (room : Nat) (v : View) :
    Value.ofOutline? (room + 7) v.toJson.outline = some v.value := by
  cases v with
  | login message =>
    cases message with
    | none => exact Value.ofOutline?_object rfl
    | some message =>
      refine Value.ofOutline?_object ?_
      rw [Value.ofMembers?_cons (Value.ofOutline?_string _ _)]
      rfl
  | certificates bands showAll =>
    have hbands : Value.ofOutline? (room + 6) (Json.array (bands.map BandView.toJson)).outline =
        some (.array (bands.map BandView.value)) :=
      Value.ofOutline?_array fun b _ => b.ofOutline?_toJson room
    refine Value.ofOutline?_object ?_
    rw [Value.ofMembers?_cons hbands, Value.ofMembers?_cons (Value.ofOutline?_bool _ _)]
    rfl
  | noCertificates showAll =>
    refine Value.ofOutline?_object ?_
    rw [Value.ofMembers?_cons (Value.ofOutline?_bool _ _)]
    rfl

/-- **The parameters of every view are JSON**, and say what the view says. -/
theorem ofText?_params (v : View) : Value.ofText? v.params.toList = some v.value := by
  have hparams : v.params.toList = v.toJson.render := String.toList_ofList
  unfold Value.ofText?
  rw [hparams, Document.ofText_render]
  exact v.ofOutline?_toJson 120

end View

/-! ## Reading parameters -/

namespace Json.Value

/-- The member of a key, if the value is an object and has one. -/
def get? (name : String) : Value → Option Value
  | .object members => member? name members
  | _ => none

/-- The elements of a value, if it is an array. -/
def elements? : Value → Option (List Value)
  | .array elements => some elements
  | _ => none

end Json.Value

namespace View

/-- The certificates of one band, as values. -/
def bandElements? (band : Value) : Option (List Value) :=
  (band.get? "certs").bind Value.elements?

/-- A certificate that is read from its value. -/
def certificate? (element : Value) : Option Certificate :=
  (Certificate.ofText (String.ofList element.render)).toOption

/-- **The certificates that a text of parameters lists**, if it is JSON: those of one band after
another, each of them decoded. -/
def listed? (params : String) : Option (List Certificate) := do
  let value ← Value.ofText? params.toList
  let lists ← value.get? "lists"
  let bands ← lists.elements?
  let elements ← bands.mapM bandElements?
  elements.flatten.mapM certificate?

/-- A certificate is read back from its value. -/
theorem certificate?_value (c : Certificate) : certificate? c.value = some c := by
  unfold certificate?
  rw [c.ofText_render_value]
  rfl

/-- **The parameters of bands list their certificates**, in order.

**Proof sketch.** The text of the parameters reads back as the value of the view. Its bands are a
list of objects, each with the list of its certificates, and every certificate is read from its
value (`certificate?_value`). -/
theorem listed?_certificates (bands : List BandView) (showAll : Bool) :
    listed? (View.certificates bands showAll).params =
      some (bands.flatMap BandView.certificates) := by
  have hlists : (View.certificates bands showAll).value.get? "lists" =
      some (.array (bands.map BandView.value)) := rfl
  have hbands : (bands.map BandView.value).mapM bandElements? =
      some (bands.map fun b => b.certificates.map Certificate.value) :=
    mapM_map_pure fun b _ => rfl
  have hflatten : (bands.map fun b => b.certificates.map Certificate.value).flatten =
      (bands.flatMap BandView.certificates).map Certificate.value := by
    rw [List.map_flatMap, List.flatMap_def]
  have hread : ((bands.flatMap BandView.certificates).map Certificate.value).mapM certificate? =
      some ((bands.flatMap BandView.certificates).map fun c => c) :=
    mapM_map_pure fun c _ => certificate?_value c
  unfold listed?
  simp only [ofText?_params, hlists, hbands, hflatten, hread, Value.elements?, Option.bind_eq_bind,
    Option.bind_some, List.map_id']

end View

end CertDashboard
