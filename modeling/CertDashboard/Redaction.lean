import CertDashboard.Text.Split

set_option autoImplicit false
set_option relaxedAutoImplicit false

/-!
# Redaction of secrets in log lines

A log line is a sequence of fields between semicolons, ampersands, commas and line ends. A field is
secret when the part before its first equals sign or colon names a password, a token, a cookie, a
secret or an authorization; what follows that sign is not shown.

## Main definitions

* `CertDashboard.Redaction.redactField` — one field without its secret.
* `CertDashboard.Redaction.redact` — a line without its secrets.
* `CertDashboard.Redaction.fields`, `CertDashboard.Redaction.separators` — the fields of a line,
  and what is between them.

## Design

`redact` goes through the line once and keeps the field that it is in. `fields` and `separators`
describe a line without it: a line is its fields with its separators between them.
-/

namespace CertDashboard

namespace Redaction

/-- What separates two fields. -/
def isSeparator (c : Char) : Bool :=
  c == ';' || c == '&' || c == ',' || c == '\n'

/-- What separates the key of a field from its value. -/
def isMark (c : Char) : Bool :=
  c == '=' || c == ':'

/-- The words that make a key secret. -/
def markers : List (List Char) :=
  ["password".toList, "token".toList, "cookie".toList, "secret".toList, "authorization".toList]

/-- Whether a key names a secret, in any case of its ASCII letters. -/
def isSecret (key : List Char) : Bool :=
  markers.any fun marker => Text.occurs marker (key.map Char.toLower)

/-- What stands for a secret. -/
def mask : List Char := "<redacted>".toList

/-- **One field without its secret.** -/
def redactField (field : List Char) : List Char :=
  match field.dropWhile fun c => !isMark c with
  | [] => field
  | mark :: _ =>
    let key := field.takeWhile fun c => !isMark c
    if isSecret key then key ++ mark :: mask else field

/-- A line without its secrets, inside a field whose characters so far are given in reverse. -/
def redactFrom (field : List Char) : List Char → List Char
  | [] => redactField field.reverse
  | c :: rest =>
    if isSeparator c then redactField field.reverse ++ c :: redactFrom [] rest
    else redactFrom (c :: field) rest

/-- **A line without its secrets.** -/
def redact (line : String) : String :=
  String.ofList (redactFrom [] line.toList)

/-! ## Fields and separators -/

/-- **The fields of a line**; there is one more than there are separators. -/
def fields (line : List Char) : List (List Char) :=
  Text.split isSeparator line

/-- **The separators of a line**, in order. -/
def separators (line : List Char) : List Char :=
  line.filter isSeparator

end Redaction

end CertDashboard
