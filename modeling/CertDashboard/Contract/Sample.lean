import CertDashboard.Certificate.Encoding

set_option autoImplicit false
set_option relaxedAutoImplicit false

/-!
# Samples

## Main definitions

* `CertDashboard.Sample.moment` — the moment that all samples are about.
* `CertDashboard.Sample.inventory` — an inventory with certificates for given numbers of days.
* `CertDashboard.Sample.byName?` — values that keep a schema, and one that does not.
-/

namespace CertDashboard

namespace Sample

/-- **The moment that all samples are about.** -/
def moment : Int64 := 1750000000

/-- The certificate at a place of a sample inventory, with so many days left. -/
def certificate (place : Nat) (days : Int) : Json :=
  .object [("common_name", .string ("host-" ++ Decimal.natural place ++ ".example.com")),
    ("not_after", .ofInt (moment.toInt + days * 86400)),
    ("paths", .array [.object [("backend", .string "vault"),
      ("location", .string ("secret/host-" ++ Decimal.natural place))]])]

/-- **An inventory** with a certificate for each number of days. -/
def inventory (days : List Int) : Json :=
  .object [("content", .array (days.zipIdx.map fun (d, place) => certificate place d))]

/-- A storage path of a sample. -/
def path (backend location : String) : StoragePath :=
  ⟨backend, location⟩

/-- A response with an inventory. -/
def cacheResponse : Json :=
  .object [("content", .array [
    Certificate.toJson ⟨"api.example.com", 1750172800, [path "vault" "secret/tls/api"]⟩,
    Certificate.toJson ⟨"www.example.com", 1750172800,
      [path "credhub" "/prod/www/tls", path "opsmgr" "p-bosh/director"]⟩,
    Certificate.toJson ⟨"mail.example.com", 1753456000, []⟩])]

/-- A response with an inventory in which a time is a text. -/
def brokenCacheResponse : Json :=
  .object [("content", .array [.object [("common_name", .string "api.example.com"),
    ("not_after", .string "2025-06-17T00:00:00Z")]])]

/-- A login. -/
def authRequest : Json :=
  .object [("username", .string "admin"), ("password", .string "correct horse battery staple")]

/-- Parameters of a list of certificates. -/
def certListView : Json :=
  .object [("lists", .array [.object [("header", .string "1 DAY"), ("cutoff", .ofInt 1750172800),
    ("color", .string "#e53545"), ("certs", .array [
      Certificate.toJson ⟨"api.example.com", 1750172800, [path "vault" "secret/tls/api"]⟩])]]),
    ("show_all", .bool false)]

/-- A response that says how users prove who they are. -/
def infoResponse : Json :=
  .object [("version", .string "0.6.0"), ("auth_type", .string "Userpass")]

/-- Parameters of the login form. -/
def loginView : Json :=
  .object [("error_message", .string "Your session has expired")]

/-- The samples by their names. -/
def samples : List (String × Json) :=
  [("fixtures/auth-request.valid.json", authRequest),
    ("fixtures/cache-response.valid.json", cacheResponse),
    ("fixtures/cache-response.invalid.json", brokenCacheResponse),
    ("fixtures/cert-list-view.valid.json", certListView),
    ("fixtures/info-response.valid.json", infoResponse),
    ("fixtures/login-view.valid.json", loginView)]

/-- **A sample by its name.** -/
def byName? (name : String) : Option Json :=
  samples.lookup name

end Sample

end CertDashboard
