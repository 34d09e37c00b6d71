import CertDashboard.Json.Value

set_option autoImplicit false
set_option relaxedAutoImplicit false

/-!
# Schemas

A schema is a list of rules. Each rule is checked on its own, and a rule that is about another kind
of value is kept by every value of this one.

## Main definitions

* `CertDashboard.Contract.Rule`, `CertDashboard.Contract.Schema` — the rules.
* `CertDashboard.Contract.violations` — the rules that a value breaks, and where.
* `CertDashboard.Contract.report` — the same as sorted lines of text.
-/

namespace CertDashboard

namespace Contract

open Json (Value)

/-- **A kind of value.** -/
inductive Kind where
  /-- The word `null`. -/
  | null
  /-- A truth value. -/
  | bool
  /-- A number without a fractional part. -/
  | integer
  /-- A string. -/
  | string
  /-- An array. -/
  | array
  /-- An object. -/
  | object
  deriving DecidableEq, Repr

/-- The name of a kind. -/
def Kind.name : Kind → String
  | .null => "null"
  | .bool => "boolean"
  | .integer => "integer"
  | .string => "string"
  | .array => "array"
  | .object => "object"

/-- Whether a number has no fractional part. -/
def isWhole : Json.Number.Quantity → Bool
  | .integer _ => true
  | .real x => x.floor == x

/-- Whether a value is of a kind. -/
def Kind.holds : Kind → Value → Bool
  | .null, .null => true
  | .bool, .bool _ => true
  | .integer, .number q => isWhole q
  | .string, .string _ => true
  | .array, .array _ => true
  | .object, .object _ => true
  | _, _ => false

/-- **A rule.** -/
inductive Rule where
  /-- The value is of one of these kinds. -/
  | kinds (ks : List Kind)
  /-- The object has this property. -/
  | required (name : String)
  /-- The object has no properties but these. -/
  | only (names : List String)
  /-- The property, if it is there, keeps these rules. -/
  | property (name : String) (rules : List Rule)
  /-- Every element keeps these rules. -/
  | elements (rules : List Rule)
  /-- The array has an element. -/
  | notEmpty
  /-- The string has a character. -/
  | notBlank
  /-- The string is one of these. -/
  | oneOf (texts : List String)
  /-- The string is a number sign and six lower-case hexadecimal digits. -/
  | hexColor

/-- **A schema**: rules that are kept together. -/
abbrev Schema : Type := List Rule

/-- **What is wrong with a value.** -/
inductive Breach where
  /-- It is of none of these kinds. -/
  | kind (value : Value) (ks : List Kind)
  /-- A property is not there. -/
  | missing (name : String)
  /-- Properties are there that should not be. -/
  | unexpected (names : List String)
  /-- It is none of these strings. -/
  | notOneOf (value : Value) (texts : List String)
  /-- It is an empty string. -/
  | short (value : Value)
  /-- It is an empty array. -/
  | empty (value : Value)
  /-- It is no color. -/
  | notColor (value : Value)

/-- **A violation**: what is wrong, and where. -/
structure Violation where
  /-- Property names and indices from the whole value to the part. -/
  path : List String
  /-- What is wrong with the part. -/
  breach : Breach

/-- Whether a character is a lower-case hexadecimal digit. -/
def isHexDigit (c : Char) : Bool :=
  c.isDigit || ('a' ≤ c && c ≤ 'f')

/-- **A color**: a number sign and six lower-case hexadecimal digits. -/
def isColor (s : String) : Bool :=
  match s.toList with
  | '#' :: ds => ds.length == 6 && ds.all isHexDigit
  | _ => false

/-- A breach of the whole value, or none. -/
def breachIf (bad : Bool) (path : List String) (breach : Breach) : List Violation :=
  if bad then [⟨path, breach⟩] else []

mutual

/-- The violations of one rule. -/
def Rule.check (path : List String) (value : Value) : Rule → List Violation
  | .kinds ks => breachIf (!(ks.any fun k => k.holds value)) path (.kind value ks)
  | .required name =>
    match value with
    | .object members => breachIf (Value.member? name members).isNone path (.missing name)
    | _ => []
  | .only names =>
    match value with
    | .object members =>
      let others := (members.map Prod.fst).filter fun name => !names.contains name
      breachIf (!others.isEmpty) path (.unexpected others)
    | _ => []
  | .property name rules =>
    match value with
    | .object members =>
      match Value.member? name members with
      | some part => checkAll (path ++ [name]) part rules
      | none => []
    | _ => []
  | .elements rules =>
    match value with
    | .array elements =>
      (elements.zipIdx.map fun (part, i) =>
        checkAll (path ++ [Decimal.natural i]) part rules).flatten
    | _ => []
  | .notEmpty =>
    match value with
    | .array elements => breachIf elements.isEmpty path (.empty value)
    | _ => []
  | .notBlank =>
    match value with
    | .string s => breachIf s.toList.isEmpty path (.short value)
    | _ => []
  | .oneOf texts =>
    match value with
    | .string s => breachIf (!texts.contains s) path (.notOneOf value texts)
    | _ => [⟨path, .notOneOf value texts⟩]
  | .hexColor =>
    match value with
    | .string s => breachIf (!isColor s) path (.notColor value)
    | _ => []

/-- The violations of several rules. -/
def checkAll (path : List String) (value : Value) : List Rule → List Violation
  | [] => []
  | rule :: rest => rule.check path value ++ checkAll path value rest

end

/-- **The violations of a schema** by a value. -/
def violations (schema : Schema) (value : Value) : List Violation :=
  checkAll [] value schema

/-! ## Wording -/

/-- Texts with another one between each two. -/
def joinTexts (between : String) : List String → String
  | [] => ""
  | [s] => s
  | s :: t :: rest => s ++ between ++ joinTexts between (t :: rest)

/-- A text in double quotes, as it is. -/
def inQuotes (s : String) : String :=
  "\"" ++ s ++ "\""

/-- A value in a message. -/
def shown (value : Value) : String :=
  String.ofList value.render

/-- **The wording of a breach.** -/
def Breach.message : Breach → String
  | .kind value [k] => shown value ++ " is not of type " ++ inQuotes k.name
  | .kind value ks =>
    shown value ++ " is not of types " ++ joinTexts ", " (ks.map fun k => inQuotes k.name)
  | .missing name => inQuotes name ++ " is a required property"
  | .unexpected names =>
    "Additional properties are not allowed (" ++
      joinTexts ", " (names.map fun name => "'" ++ name ++ "'") ++
      (if names.length = 1 then " was" else " were") ++ " unexpected)"
  | .notOneOf value texts =>
    shown value ++ " is not one of " ++ shown (.array (texts.map .string))
  | .short value => shown value ++ " is shorter than 1 character"
  | .empty value => shown value ++ " has less than 1 item"
  | .notColor value => shown value ++ " does not match \"^#[0-9a-f]\x7b6\x7d$\""

/-- **A violation as a line**: the pointer to the part, and what is wrong with it. -/
def Violation.line (v : Violation) : String :=
  String.join (v.path.map fun part => "/" ++ part) ++ ": " ++ v.breach.message

/-- **The violations of a schema as lines**, in the order of their code points. -/
def report (schema : Schema) (value : Value) : List String :=
  ((violations schema value).map Violation.line).mergeSort fun s t => decide (s ≤ t)

end Contract

end CertDashboard
