import CertDashboard.Api.Wire
import CertDashboard.Proofs.Contract.Rules
import CertDashboard.Proofs.Json.Reading
import CertDashboard.Proofs.Json.Values

set_option autoImplicit false
set_option relaxedAutoImplicit false

/-!
# What the body of a login says

A user name and a password may be any texts. Whatever is in them, the body of a login is an object
with the two as its members, and nothing in one of them ends its string, opens a member of its own
or runs into the other one: a reader gets back exactly the credentials that were written.

## Main definitions

* `CertDashboard.Api.loginValue` — the body of a login as a value without its spelling.
* `CertDashboard.Api.Credentials.ofBody?` — credentials that are read back from a body.

## Main results

* `CertDashboard.Api.ofText?_loginBody` — the body of every login is JSON.
* `CertDashboard.Api.allKept_loginValue` — it keeps its schema.
* `CertDashboard.Api.Credentials.ofBody?_loginBody` — the credentials are read back from it.
* `CertDashboard.Api.login_body` — all of this, of the request that is sent.

## Design

The order of the two members is a matter of spelling. It is seen in the outline of a body and lost
in its value, whose keys ascend.
-/

namespace CertDashboard

namespace Api

open Json

/-- **The body of a login as a value without its spelling.** -/
def loginValue (c : Credentials) : Value :=
  .object [("password", .string c.password), ("username", .string c.username)]

/-- The text of a body is read to its end. -/
theorem document_loginBody (c : Credentials) :
    Document.ofText (loginBody c).text.toList = ⟨(loginBody c).outline, true⟩ := by
  rw [Json.toList_text, Document.ofText_render]

/-- The members of a body, in order: the user name, and then the password. -/
theorem outline_loginBody (c : Credentials) : (loginBody c).outline =
    .object [(.ofString "username", .string (.ofString c.username)),
      (.ofString "password", .string (.ofString c.password))] true :=
  rfl

/-- **The body of every login is JSON**, and says what was written. -/
theorem ofText?_loginBody (c : Credentials) :
    Value.ofText? (loginBody c).text.toList = some (loginValue c) := by
  have hvalue : Value.ofOutline? Value.depth (loginBody c).outline = some (loginValue c) := by
    refine Value.ofOutline?_object ?_
    rw [Value.ofMembers?_cons (Value.ofOutline?_string _ _),
      Value.ofMembers?_cons (Value.ofOutline?_string _ _)]
    rfl
  unfold Value.ofText?
  rw [document_loginBody]
  exact hvalue

/-- **The body of every login keeps its schema.** -/
theorem allKept_loginValue (c : Credentials) :
    Contract.AllKept (loginValue c) Contract.authRequest := by
  simp [loginValue, Contract.authRequest, Contract.mandatory, Contract.text, Contract.AllKept,
    Contract.Rule.Kept, Contract.Kind.holds, Value.member?, or_imp, forall_and]

/-- Credentials, if a value is an object of a user name and a password, both of them texts. -/
def Credentials.ofValue? : Value → Option Credentials
  | .object [("password", .string password), ("username", .string username)] =>
    some ⟨username, password⟩
  | _ => none

/-- **Credentials that are read back from a body.** -/
def Credentials.ofBody? (body : String) : Option Credentials :=
  (Value.ofText? body.toList).bind ofValue?

/-- **The credentials are read back from the body of a login.** -/
theorem Credentials.ofBody?_loginBody (c : Credentials) : ofBody? (loginBody c).text = some c := by
  unfold ofBody?
  rw [ofText?_loginBody]
  rfl

/-- **What the body of a login says.** The request of a login has a body, which is JSON and to its
end an object of two members, the user name and then the password, as they were given. It has no
violations against its schema. The credentials are read back from it, so that no others have the
same body, wherever they are sent.

**Proof sketch.** The body is the text of an object, whose outline is computed
(`document_loginBody`, `outline_loginBody`) and keeps the rules of its schema
(`allKept_loginValue`). Reading the credentials back (`Credentials.ofBody?_loginBody`) makes the
body injective. -/
theorem login_body (x : Exchange) (c : Credentials) : ∃ (request : Request) (body : String),
    (x.call (.login c)).wire.parked = x.wire.parked ++ [request] ∧ request.body = some body ∧
      Document.ofText body.toList =
        ⟨.object [(.ofString "username", .string (.ofString c.username)),
          (.ofString "password", .string (.ofString c.password))] true, true⟩ ∧
      (Content.ofString c.username).toString = c.username ∧
      (Content.ofString c.password).toString = c.password ∧
      (∃ value, Value.ofText? body.toList = some value ∧
        Contract.violations Contract.authRequest value = []) ∧
      Credentials.ofBody? body = some c ∧
      ∀ (client : Client) (d : Credentials), (client.request (.login d)).body = some body → d = c := by
  refine ⟨x.client.request (.login c), (loginBody c).text, rfl, rfl, ?_, Content.toString_ofString _,
    Content.toString_ofString _, ⟨loginValue c, ofText?_loginBody c, ?_⟩,
    Credentials.ofBody?_loginBody c, fun client d hbody => ?_⟩
  · rw [document_loginBody, outline_loginBody]
  · exact Contract.violations_eq_nil_iff.mpr (allKept_loginValue c)
  · have hsame : (loginBody d).text = (loginBody c).text := Option.some_inj.mp hbody
    have hread : some d = some c := by
      rw [← Credentials.ofBody?_loginBody d, ← Credentials.ofBody?_loginBody c, hsame]
    exact Option.some_inj.mp hread

end Api

end CertDashboard
