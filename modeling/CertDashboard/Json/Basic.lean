import CertDashboard.Json.Literal
import CertDashboard.Json.Number

set_option autoImplicit false
set_option relaxedAutoImplicit false

/-!
# JSON values and their compact text

## Main definitions

* `CertDashboard.Json` — a JSON value: number literals as written, members in order and possibly
  with repeated keys.
* `CertDashboard.Json.render` — the compact text of a value.
* `CertDashboard.Json.ofInt`, `CertDashboard.Json.text` — an integer as a value, and the text of a
  value as a string.

## Design

A value is what a compact text says and no more, so rendering forgets nothing. What a number
literal denotes is asked of the literal (`Number.quantity?`), and which of two members with one key
counts is asked by the reader.
-/

namespace CertDashboard

/-- **A JSON value**, as written. -/
inductive Json where
  /-- The literal `null`. -/
  | null
  /-- The literals `true` and `false`. -/
  | bool (b : Bool)
  /-- A number literal. -/
  | number (n : Json.Number)
  /-- A string. -/
  | string (s : String)
  /-- An array. -/
  | array (elements : List Json)
  /-- An object, its members in order. -/
  | object (members : List (String × Json))

namespace Json

/-- An integer as a value. -/
def ofInt (i : Int) : Json :=
  .number (.ofInt i)

/-- A string in quotes. -/
def renderString (s : String) : List Char :=
  '"' :: Literal.encode s.toList ++ ['"']

mutual

/-- **The compact text of a value**: no blanks, members in order. -/
def render : Json → List Char
  | .null => ['n', 'u', 'l', 'l']
  | .bool true => ['t', 'r', 'u', 'e']
  | .bool false => ['f', 'a', 'l', 's', 'e']
  | .number n => n.render
  | .string s => renderString s
  | .array elements => '[' :: renderElements elements ++ [']']
  | .object members => '\x7b' :: renderMembers members ++ ['\x7d']

/-- Elements with a comma between each two. -/
def renderElements : List Json → List Char
  | [] => []
  | [v] => v.render
  | v :: w :: rest => v.render ++ ',' :: renderElements (w :: rest)

/-- Members with a comma between each two, and a colon behind each key. -/
def renderMembers : List (String × Json) → List Char
  | [] => []
  | [(k, v)] => renderString k ++ ':' :: v.render
  | (k, v) :: m :: rest => renderString k ++ ':' :: v.render ++ ',' :: renderMembers (m :: rest)

end

/-- The compact text of a value as a string. -/
def text (v : Json) : String :=
  String.ofList v.render

/-- The characters of the text of a value are those that render it. -/
@[simp] theorem toList_text (v : Json) : v.text.toList = v.render := by
  simp [text]

end Json

end CertDashboard
