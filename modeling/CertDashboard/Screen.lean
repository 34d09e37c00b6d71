set_option autoImplicit false
set_option relaxedAutoImplicit false

/-!
# Parts of the screen

## Main definitions

* `CertDashboard.Surface` — the regions that pages show, hide and render into.
* `CertDashboard.Gesture` — what a user can do.
* `CertDashboard.PageKind` — the kinds of page.
-/

namespace CertDashboard

/-- **A region of the screen.** -/
inductive Surface where
  /-- Around the login form. -/
  | loginPanel
  /-- Around the list of certificates. -/
  | certificatePanel
  /-- The entry of the menu. -/
  | hamburgerMenu
  deriving DecidableEq, Repr

/-- **What a user can do.** -/
inductive Gesture where
  /-- Submits the login form. -/
  | loginSubmit
  /-- Asks for more or for fewer certificates. -/
  | toggleHorizon
  /-- Logs out. -/
  | logout
  deriving DecidableEq, Repr

/-- **A kind of page.** -/
inductive PageKind where
  /-- The login form. -/
  | login
  /-- The list of certificates. -/
  | dashboard
  deriving DecidableEq, Repr

/-- The name of a kind. -/
def PageKind.name : PageKind → String
  | .login => "Login"
  | .dashboard => "Dashboard"

/-- The name of a region. -/
def Surface.name : Surface → String
  | .loginPanel => "LoginPanel"
  | .certificatePanel => "CertificatePanel"
  | .hamburgerMenu => "HamburgerMenu"

/-- The name of a gesture. -/
def Gesture.name : Gesture → String
  | .loginSubmit => "LoginSubmit"
  | .toggleHorizon => "ToggleHorizon"
  | .logout => "Logout"

end CertDashboard
