import CertDashboard.Certificate.Encoding
import CertDashboard.Expiry.Band

set_option autoImplicit false
set_option relaxedAutoImplicit false

/-!
# What a page shows

## Main definitions

* `CertDashboard.View` — a template with its parameters.
* `CertDashboard.View.ofBands` — the view of some bands.
* `CertDashboard.View.toJson`, `CertDashboard.View.params` — the parameters as JSON.
-/

namespace CertDashboard

/-- **A band as a template takes it.** -/
structure BandView where
  /-- Header. -/
  header : String
  /-- Latest expiry that belongs to the band. -/
  cutoff : Int64
  /-- Color as a style sheet has it. -/
  color : String
  /-- Certificates, in order. -/
  certificates : List Certificate
  deriving DecidableEq, Repr

namespace BandView

/-- A band as a template takes it. -/
def ofBand (b : Expiry.Band) : BandView :=
  ⟨b.label, b.cutoff, b.color.toHex, b.certificates⟩

/-- The parameters of a band. -/
def toJson (b : BandView) : Json :=
  .object [("header", .string b.header), ("cutoff", .ofInt b.cutoff.toInt),
    ("color", .string b.color), ("certs", .array (b.certificates.map Certificate.toJson))]

end BandView

/-- **What a page shows.** -/
inductive View where
  /-- The login form, with a message if there is one. -/
  | login (message : Option String)
  /-- Bands of certificates, and whether all of them are shown. -/
  | certificates (bands : List BandView) (showAll : Bool)
  /-- No certificates, and whether all of them are shown. -/
  | noCertificates (showAll : Bool)
  deriving DecidableEq, Repr

namespace View

/-- **The view of some bands**; there is a view of its own for none. -/
def ofBands (bands : List Expiry.Band) (showAll : Bool) : View :=
  if bands.isEmpty then .noCertificates showAll
  else .certificates (bands.map BandView.ofBand) showAll

/-- The template of a view. -/
def template : View → String
  | .login _ => "login-page"
  | .certificates _ _ => "cert-list-group"
  | .noCertificates _ => "no-certs-page"

/-- **The parameters of a view.** A message that is not there has no member. -/
def toJson : View → Json
  | .login none => .object []
  | .login (some message) => .object [("error_message", .string message)]
  | .certificates bands showAll =>
    .object [("lists", .array (bands.map BandView.toJson)), ("show_all", .bool showAll)]
  | .noCertificates showAll => .object [("show_all", .bool showAll)]

/-- The compact text of the parameters. -/
def params (v : View) : String :=
  v.toJson.text

end View

end CertDashboard
