import CertDashboard.Contract.Schema

set_option autoImplicit false
set_option relaxedAutoImplicit false

/-!
# The agreed schemas

What the backend and the templates may rely on: the bodies of requests and responses, and the
parameters of each template.

## Main definitions

* `CertDashboard.Contract.authRequest`, `cacheResponse`, `infoResponse` — bodies.
* `CertDashboard.Contract.loginView`, `certListView`, `noCertsView` — parameters of templates.
* `CertDashboard.Contract.byName?` — a schema by its name.
-/

namespace CertDashboard

namespace Contract

/-- Rules for a property that must be there. -/
def mandatory (name : String) (rules : List Rule) : List Rule :=
  [.required name, .property name rules]

/-- A string. -/
def text : Schema := [.kinds [.string]]

/-- An integer. -/
def integer : Schema := [.kinds [.integer]]

/-- A truth value. -/
def truth : Schema := [.kinds [.bool]]

/-- **The body of a login.** -/
def authRequest : Schema :=
  .kinds [.object] :: .only ["username", "password"] ::
    (mandatory "username" text ++ mandatory "password" text)

/-- A place where a certificate is stored. -/
def storagePath : Schema :=
  .kinds [.object] :: (mandatory "backend" text ++ mandatory "location" text)

/-- A certificate of the inventory. -/
def certificate : Schema :=
  .kinds [.object] :: (mandatory "common_name" text ++ mandatory "not_after" integer ++
    [.property "paths" [.kinds [.array], .elements storagePath]])

/-- **The inventory.** -/
def cacheResponse : Schema :=
  [.kinds [.object], .property "content" [.kinds [.array, .null], .elements certificate]]

/-- **How users prove who they are.** -/
def infoResponse : Schema :=
  [.kinds [.object], .property "version" text,
    .property "auth_type" [.kinds [.string], .oneOf ["None", "Userpass"]]]

/-- **The parameters of the login form.** -/
def loginView : Schema :=
  [.kinds [.object], .only ["error_message"],
    .property "error_message" [.kinds [.string], .notBlank]]

/-- A certificate of a list. -/
def listedCertificate : Schema :=
  .kinds [.object] :: (mandatory "common_name" text ++ mandatory "not_after" integer ++
    mandatory "paths" [.kinds [.array]])

/-- A band of a list. -/
def band : Schema :=
  .kinds [.object] :: (mandatory "header" [.kinds [.string], .notBlank] ++
    mandatory "cutoff" integer ++ mandatory "color" [.kinds [.string], .hexColor] ++
    mandatory "certs" [.kinds [.array], .notEmpty, .elements listedCertificate])

/-- **The parameters of a list of certificates.** -/
def certListView : Schema :=
  .kinds [.object] :: .only ["lists", "show_all"] ::
    (mandatory "lists" [.kinds [.array], .notEmpty, .elements band] ++ mandatory "show_all" truth)

/-- **The parameters of an empty list.** -/
def noCertsView : Schema :=
  .kinds [.object] :: .only ["show_all"] :: mandatory "show_all" truth

/-- The schemas by their names. -/
def catalogue : List (String × Schema) :=
  [("auth-request", authRequest), ("cache-response", cacheResponse),
    ("cert-list-view", certListView), ("info-response", infoResponse), ("login-view", loginView),
    ("no-certs-view", noCertsView)]

/-- **A schema by its name.** -/
def byName? (name : String) : Option Schema :=
  catalogue.lookup name

end Contract

end CertDashboard
