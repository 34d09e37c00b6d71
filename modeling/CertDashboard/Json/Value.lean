import CertDashboard.Json.Decode

set_option autoImplicit false
set_option relaxedAutoImplicit false

/-!
# Values without their spelling

What a JSON text says when its spelling does not matter: numbers are what their literals denote, and
an object has each key once, in the order of the keys.

## Main definitions

* `CertDashboard.Json.Value` — a value without its spelling.
* `CertDashboard.Json.Value.ofText?` — the value of a whole text.
* `CertDashboard.Json.Value.render` — the compact text of a value.

## Design

Of two members with one key the later one counts. Containers may be nested 127 deep.
-/

namespace CertDashboard

namespace Json

/-- **A value without its spelling.** -/
inductive Value where
  /-- The word `null`. -/
  | null
  /-- A truth value. -/
  | bool (b : Bool)
  /-- A number. -/
  | number (q : Number.Quantity)
  /-- A string. -/
  | string (s : String)
  /-- An array. -/
  | array (elements : List Value)
  /-- An object, its keys ascending. -/
  | object (members : List (String × Value))

namespace Value

/-- Puts a member into an object, in the place of its key. A member of the same key is replaced. -/
def insert (key : String) (value : Value) : List (String × Value) → List (String × Value)
  | [] => [(key, value)]
  | (k, v) :: rest =>
    if key = k then (key, value) :: rest
    else if key < k then (key, value) :: (k, v) :: rest
    else (k, v) :: insert key value rest

/-- The member of a key. -/
def member? (name : String) (members : List (String × Value)) : Option Value :=
  (members.find? fun m => m.1 == name).map Prod.snd

mutual

/-- The value of an outline that is whole, if its numbers are not too large, its surrogates are
paired, and its containers are not nested deeper than there is room for. -/
def ofOutline? (room : Nat) : Outline → Option Value
  | .broken => none
  | .null => some .null
  | .bool b => some (.bool b)
  | .number n => n.quantity?.map .number
  | .string t => if t.isPaired then some (.string t.toString) else none
  | .array elements closed =>
    if closed = true ∧ 0 < room then (ofOutlines? (room - 1) elements).map .array else none
  | .object members closed =>
    if closed = true ∧ 0 < room then (ofMembers? (room - 1) [] members).map .object else none

/-- The values of several outlines. -/
def ofOutlines? (room : Nat) : List Outline → Option (List Value)
  | [] => some []
  | o :: rest =>
    match ofOutline? room o, ofOutlines? room rest with
    | some v, some vs => some (v :: vs)
    | _, _ => none

/-- The members of an object, put one after another into those that are there. -/
def ofMembers? (room : Nat) (done : List (String × Value)) :
    List (Content × Outline) → Option (List (String × Value))
  | [] => some done
  | (key, o) :: rest =>
    match ofOutline? room o with
    | some v =>
      if key.isPaired then ofMembers? room (insert key.toString v done) rest else none
    | none => none

end

/-- How many containers may be nested. -/
def depth : Nat := 127

/-- **The value of a whole text.** -/
def ofText? (cs : List Char) : Option Value :=
  let document := Document.ofText cs
  if document.isClean then ofOutline? depth document.outline else none

/-- The text of a number. -/
def renderQuantity : Number.Quantity → List Char
  | .integer i => (Decimal.integer i).toList
  | .real x => (realText x).toList

mutual

/-- **The compact text of a value.** -/
def render : Value → List Char
  | .null => ['n', 'u', 'l', 'l']
  | .bool true => ['t', 'r', 'u', 'e']
  | .bool false => ['f', 'a', 'l', 's', 'e']
  | .number q => renderQuantity q
  | .string s => renderString s
  | .array elements => '[' :: renderElements elements ++ [']']
  | .object members => '\x7b' :: renderMembers members ++ ['\x7d']

/-- Elements with a comma between each two. -/
def renderElements : List Value → List Char
  | [] => []
  | [v] => v.render
  | v :: w :: rest => v.render ++ ',' :: renderElements (w :: rest)

/-- Members with a comma between each two, and a colon behind each key. -/
def renderMembers : List (String × Value) → List Char
  | [] => []
  | [(k, v)] => renderString k ++ ':' :: v.render
  | (k, v) :: m :: rest => renderString k ++ ':' :: v.render ++ ',' :: renderMembers (m :: rest)

end

end Value

end Json

end CertDashboard
