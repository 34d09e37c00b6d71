import CertDashboard.Proofs.Contract.Rules
import CertDashboard.Proofs.Expiry.Bands
import CertDashboard.Proofs.View
import CertDashboard.Screen
import Mathlib.Tactic.MkIffOfInductiveProp

set_option autoImplicit false
set_option relaxedAutoImplicit false

/-!
# Views that keep their schema

The parameters of every view are JSON, but not all of them keep the agreed schema: a message may be
empty, a list may be without bands, and so on. The bands of an inventory have none of these
faults, whatever the certificates are and whenever they are looked at.

## Main definitions

* `CertDashboard.Contract.ofTemplate?` — the schema of a template.
* `CertDashboard.View.KeepsSchema` — the parameters of a view keep the schema of its template.
* `CertDashboard.View.IsProper` — what that comes to.
* `CertDashboard.View.surface` — the region that a view is made for.

## Main results

* `CertDashboard.View.keepsSchema_iff` — a view keeps its schema if and only if it is proper.
* `CertDashboard.View.isProper_bands` — the view of the bands of any certificates is proper.
-/

namespace CertDashboard

open Json Contract

/-! ## Schemas of templates -/

namespace Contract

/-- The templates, with the names of their schemas. -/
def templates : List (String × String) :=
  [("login-page", "login-view"), ("cert-list-group", "cert-list-view"),
    ("no-certs-page", "no-certs-view")]

/-- **The schema of a template**, by the name of the template. -/
def ofTemplate? (template : String) : Option Schema :=
  (templates.lookup template).bind byName?

end Contract

/-- **The parameters of a view keep the schema of its template**: they are JSON, and break no rule
of it. -/
def View.KeepsSchema (v : View) : Prop :=
  ∃ schema value, ofTemplate? v.template = some schema ∧
    Value.ofText? v.params.toList = some value ∧ violations schema value = []

/-- **A band that a template can take**: it has a header, a color and a certificate. -/
@[mk_iff]
structure BandView.IsProper (b : BandView) : Prop where
  /-- The header is not empty. -/
  header : b.header ≠ ""
  /-- The color is one of a style sheet. -/
  color : isColor b.color = true
  /-- There is a certificate. -/
  certificates : b.certificates ≠ []

/-- **A view that a template can take**: a message is not empty, and neither is a list. -/
def View.IsProper : View → Prop
  | .login message => message ≠ some ""
  | .certificates bands _ => bands ≠ [] ∧ ∀ b ∈ bands, b.IsProper
  | .noCertificates _ => True

/-- **The region that a view is made for.** -/
def View.surface : View → Surface
  | .login _ => .loginPanel
  | .certificates _ _ | .noCertificates _ => .certificatePanel

/-- A certificate that is listed keeps the schema of those, whatever it is. -/
theorem allKept_listedCertificate (c : Certificate) : AllKept c.value listedCertificate := by
  simp [Certificate.value, listedCertificate, mandatory, Contract.text, integer, AllKept, Rule.Kept,
    Kind.holds, isWhole, Value.member?]

/-- **A band keeps its schema if and only if it is proper.** -/
theorem BandView.allKept_iff (b : BandView) : AllKept b.value band ↔ b.IsProper := by
  simp [BandView.value, band, mandatory, integer, AllKept, Rule.Kept, Kind.holds, isWhole,
    Value.member?, allKept_listedCertificate, isProper_iff]

namespace View

/-- **A view keeps its schema if and only if it is proper.**

**Proof sketch.** The parameters are the text of a value, so that only the rules of the template's
schema are to be checked (`violations_eq_nil_iff`). By the kinds of views these are evaluated, down
to the bands (`BandView.allKept_iff`). -/
theorem keepsSchema_iff (v : View) : v.KeepsSchema ↔ v.IsProper := by
  -- The parameters are JSON in any case, and so all depends on the rules.
  have hvalue : v.KeepsSchema ↔ ∃ schema, ofTemplate? v.template = some schema ∧
      AllKept v.value schema := by
    simp only [KeepsSchema, ofText?_params, Option.some.injEq, violations_eq_nil_iff]
    exact exists_congr fun schema => by simp
  rw [hvalue]
  cases v with
  | login message =>
    have hschema : ofTemplate? (View.login message).template = some loginView := rfl
    cases message <;>
      simp [hschema, IsProper, value, loginView, AllKept, Rule.Kept, Kind.holds, Value.member?]
  | certificates bands showAll =>
    have hschema : ofTemplate? (View.certificates bands showAll).template = some certListView := rfl
    simp [hschema, IsProper, value, certListView, mandatory, truth, AllKept, Rule.Kept, Kind.holds,
      Value.member?, BandView.allKept_iff, or_imp, forall_and]
  | noCertificates showAll =>
    have hschema : ofTemplate? (View.noCertificates showAll).template = some noCertsView := rfl
    simp [hschema, IsProper, value, noCertsView, mandatory, truth, AllKept, Rule.Kept, Kind.holds,
      Value.member?]

end View

/-! ## Views of bands -/

/-- A digit that is written is one. -/
theorem isHexDigit_digit (n : Nat) : isHexDigit (Hex.digit n) = true := by
  have h : ∀ m < 16, isHexDigit (Nat.digitChar m) = true := by decide
  exact h _ (Nat.mod_lt _ (by decide))

/-- **A color that is written is one of a style sheet**, whatever its channels are. -/
theorem Rgb.isColor_toHex {α : Type} [Channel α] (c : Rgb α) : isColor c.toHex = true := by
  simp [isColor, Rgb.toHex, Hex.byte, isHexDigit_digit]

namespace Expiry

/-- A number and its unit are not empty. -/
theorem counted_ne_empty (n : Nat) (unit : String) : counted n unit ≠ "" := by
  simp [counted]

/-- **A number of days has a header.** -/
theorem label_ne_empty (days : Int) : label days ≠ "" := by
  unfold label
  dsimp only
  split
  · decide
  · split
    · decide
    · split
      · exact counted_ne_empty _ _
      · split
        · exact counted_ne_empty _ _
        · simp

/-- **The bands of any certificates are proper**: the certificate that opens one gives it a header
and a color, and is in it. -/
theorem isProper_of_mem_bands {now : Int64} {certificates : List Certificate} {band : Band}
    (h : band ∈ bands now certificates) : (BandView.ofBand band).IsProper := by
  obtain ⟨c, more, rfl, -, -⟩ := exists_opened h
  exact ⟨label_ne_empty _, Rgb.isColor_toHex _, List.cons_ne_nil c more⟩

end Expiry

/-- **The view of the bands of any certificates is proper**, and made for the list of
certificates. -/
theorem View.isProper_bands (now : Int64) (certificates : List Certificate) (showAll : Bool) :
    (View.ofBands (Expiry.bands now certificates) showAll).IsProper ∧
      (View.ofBands (Expiry.bands now certificates) showAll).surface = .certificatePanel := by
  unfold View.ofBands
  split
  · exact ⟨trivial, rfl⟩
  · next hsome =>
    refine ⟨⟨by simpa using hsome, fun b hb => ?_⟩, rfl⟩
    obtain ⟨band, hband, rfl⟩ := List.mem_map.mp hb
    exact Expiry.isProper_of_mem_bands hband

end CertDashboard
