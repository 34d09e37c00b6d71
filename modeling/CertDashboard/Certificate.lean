set_option autoImplicit false
set_option relaxedAutoImplicit false

/-!
# Certificates

## Main definitions

* `CertDashboard.Certificate` — a certificate as the inventory reports it.
* `CertDashboard.StoragePath` — a place where a certificate is stored.
* `CertDashboard.Ascending` — an inventory in the order of expiry.
-/

namespace CertDashboard

/-- **A place where a certificate is stored.** -/
structure StoragePath where
  /-- Name of the storage backend. -/
  backend : String
  /-- Location of the certificate inside of it. -/
  location : String
  deriving DecidableEq, Repr

/-- **A certificate.** -/
structure Certificate where
  /-- Common name of the subject. -/
  commonName : String
  /-- Last second of its life, counted from the Unix epoch. -/
  notAfter : Int64
  /-- Where it is stored, in the order of the backends. -/
  paths : List StoragePath
  deriving DecidableEq, Repr

/-- An inventory in the order of expiry. -/
def Ascending (certificates : List Certificate) : Prop :=
  certificates.Pairwise fun a b => a.notAfter ≤ b.notAfter

end CertDashboard
