import CertDashboard.Text.Split
import CertDashboard.Url.Percent

set_option autoImplicit false
set_option relaxedAutoImplicit false

/-!
# Form fields in a query

## Main definitions

* `CertDashboard.Url.Form.decodeText` — a name or a value: a plus sign is a space, `%XX` an octet.
* `CertDashboard.Url.Form.fields` — the fields of a query, in order.
* `CertDashboard.Url.Form.last?` — the value of the last field of a name in a query.
-/

namespace CertDashboard

namespace Url

namespace Form

/-- **A name or a value**: a plus sign is a space, `%XX` an octet, and octets that are no UTF-8 are
replaced. -/
def decodeText (cs : List Char) : String :=
  String.ofList (Utf8.decode (percentDecode (cs.map fun c => if c = '+' then ' ' else c)))

/-- One field: the name goes to the first equals sign, and without one there is no value. -/
def field (piece : List Char) : String × String :=
  (decodeText (piece.takeWhile (· ≠ '=')), decodeText (piece.dropWhile (· ≠ '=')).tail)

/-- **The fields of a query**, in order. Question marks in front of it are dropped, and so are empty
pieces. -/
def fields (query : String) : List (String × String) :=
  let body := query.toList.dropWhile (· = '?')
  ((Text.split (· == '&') body).filter (· ≠ [])).map field

/-- The value of the last field of a name. -/
def lastOf (fields : List (String × String)) (name : String) : Option String :=
  (fields.reverse.find? fun f => f.1 == name).map Prod.snd

/-- **The value of the last field of a name in a query.** -/
def last? (query name : String) : Option String :=
  lastOf (fields query) name

end Form

end Url

end CertDashboard
