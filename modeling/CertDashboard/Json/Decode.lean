import CertDashboard.Json.Outline
import CertDashboard.Text.Quoted

set_option autoImplicit false
set_option relaxedAutoImplicit false

/-!
# Decoding typed values

A decoder goes through an outline from left to right and stops at the first fault it meets, be it a
value of the wrong shape or the place where the text breaks.

## Main definitions

* `CertDashboard.Json.Fault` — what can be wrong with a text, and `Fault.message`.
* `CertDashboard.Json.Decoder` — a function from outlines.
* `CertDashboard.Json.Decoder.text`, `integer`, `optional`, `list` — decoders of single values.
* `CertDashboard.Json.Record` — a record by its fields, and `Record.decoder`.
* `CertDashboard.Json.decode` — runs a decoder on a whole text.

## Design

A scalar is judged when it is complete: a number too large for a double or half of a surrogate pair
is malformed even where another shape was expected. A container of the wrong shape is refused at
its bracket, whatever is inside. A value that nobody asks for has to be whole and nothing more.
-/

namespace CertDashboard

namespace Json

/-- **The shape that was found** in the place of another one. -/
inductive Found where
  /-- The word `null`. -/
  | null
  /-- A truth value. -/
  | bool (b : Bool)
  /-- An integer. -/
  | integer (i : Int)
  /-- A double. -/
  | real (x : Float)
  /-- A string. -/
  | string (s : String)
  /-- An array. -/
  | sequence
  /-- An object. -/
  | map

/-- **What can be wrong with a text.** -/
inductive Fault where
  /-- The text is not JSON. -/
  | malformed
  /-- A required field is not there. -/
  | missingField (name : String)
  /-- A field is there twice. -/
  | duplicateField (name : String)
  /-- A value has the wrong shape. -/
  | invalidType (found : Found) (expected : String)
  /-- An integer does not fit. -/
  | invalidValue (i : Int) (expected : String)
  /-- The array form of a record ends before a required field. -/
  | invalidLength (length : Nat) (record : String) (fields : Nat)

/-- A double as text. -/
def realText (x : Float) : String :=
  match Shortest.Binary.ofBits? x.toBits with
  | some b => String.ofList b.render
  | none => if x.isNaN then "NaN" else if x < 0 then "-inf" else "inf"

/-- What was found, in words. -/
def Found.describe : Found → String
  | .null => "null"
  | .bool b => "boolean `" ++ (if b then "true" else "false") ++ "`"
  | .integer i => "integer `" ++ Decimal.integer i ++ "`"
  | .real x => "floating point `" ++ realText x ++ "`"
  | .string s => "string " ++ Text.quoted s
  | .sequence => "sequence"
  | .map => "map"

/-- **The wording of a fault.** -/
def Fault.message : Fault → String
  | .malformed => "malformed JSON"
  | .missingField name => "missing field `" ++ name ++ "`"
  | .duplicateField name => "duplicate field `" ++ name ++ "`"
  | .invalidType found expected =>
    "invalid type: " ++ found.describe ++ ", expected " ++ expected
  | .invalidValue i expected =>
    "invalid value: integer `" ++ Decimal.integer i ++ "`, expected " ++ expected
  | .invalidLength length record fields =>
    "invalid length " ++ Decimal.natural length ++ ", expected struct " ++ record ++ " with " ++
      Decimal.natural fields ++ (if fields = 1 then " element" else " elements")

/-- **A decoder**: a function from outlines that may find a fault. -/
abbrev Decoder (α : Type) : Type := Outline → Except Fault α

/-- The shape of an outline; scalars are judged as a whole. -/
def Outline.found : Outline → Except Fault Found
  | .broken => .error .malformed
  | .null => .ok .null
  | .bool b => .ok (.bool b)
  | .number n =>
    match n.quantity? with
    | none => .error .malformed
    | some (.integer i) => .ok (.integer i)
    | some (.real x) => .ok (.real x)
  | .string t => if t.isPaired then .ok (.string t.toString) else .error .malformed
  | .array _ _ => .ok .sequence
  | .object _ _ => .ok .map

/-- The fault of an outline that has not the expected shape. -/
def Outline.refusal (o : Outline) (expected : String) : Fault :=
  match o.found with
  | .error fault => fault
  | .ok found => .invalidType found expected

namespace Decoder

/-- **A string.** -/
def text : Decoder String
  | .string t => if t.isPaired then .ok t.toString else .error .malformed
  | o => .error (o.refusal "a string")

/-- **A signed integer of 64 bits.** -/
def integer : Decoder Int64
  | .number n =>
    match n.integer? with
    | some i =>
      if i ≤ Int64.maxValue.toInt then .ok (Int64.ofInt i) else .error (.invalidValue i "i64")
    | none => .error ((Outline.number n).refusal "i64")
  | o => .error (o.refusal "i64")

/-- **A value or nothing**: `null` is nothing. -/
def optional {α : Type} (d : Decoder α) : Decoder (Option α)
  | .null => .ok none
  | o => (d o).map some

/-- **A list.** -/
def list {α : Type} (d : Decoder α) : Decoder (List α)
  | .array elements closed => do
    let xs ← elements.mapM d
    if closed then .ok xs else .error .malformed
  | o => .error (o.refusal "a sequence")

end Decoder

/-- **A field of a record**, as what it does to a draft of the record. -/
structure Field (σ : Type) where
  /-- Name of the field. -/
  name : String
  /-- Whether the field has to be there. -/
  isRequired : Bool
  /-- Whether a draft has the field already. -/
  isGiven : σ → Bool
  /-- Puts the value of the field into a draft. -/
  read : Outline → σ → Except Fault σ

/-- **A record by its fields**, in the order of their declaration. It is written as an object, or
as an array of its fields in this order. -/
structure Record (σ α : Type) where
  /-- Name of the record. -/
  name : String
  /-- The draft without any field. -/
  blank : σ
  /-- Fields in the order of their declaration. -/
  fields : List (Field σ)
  /-- The record of a draft in which every required field is given. -/
  build : σ → Except Fault α

namespace Record

variable {σ α : Type}

/-- One member of the object form. A known key is looked for first, then for the second time; the
value of an unknown key has to be whole. -/
def readMember (r : Record σ α) (draft : σ) (key : Content) (value : Outline) : Except Fault σ :=
  if key.isPaired then
    match r.fields.find? fun f => f.name == key.toString with
    | some f =>
      if f.isGiven draft then .error (.duplicateField f.name) else f.read value draft
    | none => if value.isWhole then .ok draft else .error .malformed
  else .error .malformed

/-- The members of the object form. -/
def readMembers (r : Record σ α) (draft : σ) : List (Content × Outline) → Except Fault σ
  | [] => .ok draft
  | (key, value) :: rest =>
    match r.readMember draft key value with
    | .error fault => .error fault
    | .ok draft => r.readMembers draft rest

/-- The elements of the array form, against the fields that are still due. Only fields that need
not be there may be left out, from the end. -/
def readElements (r : Record σ α) (closed : Bool) (read : Nat) (draft : σ) :
    List (Field σ) → List Outline → Except Fault σ
  | [], [] => if closed then .ok draft else .error .malformed
  | [], _ :: _ => .error .malformed
  | f :: fields, o :: rest =>
    match f.read o draft with
    | .error fault => .error fault
    | .ok draft => r.readElements closed (read + 1) draft fields rest
  | f :: fields, [] =>
    if !closed then .error .malformed
    else if f.isRequired then .error (.invalidLength read r.name r.fields.length)
    else r.readElements closed read draft fields []

/-- **The decoder of a record.** -/
def decoder (r : Record σ α) : Decoder α
  | .object members closed => do
    let draft ← r.readMembers r.blank members
    if closed then r.build draft else .error .malformed
  | .array elements closed => do
    let draft ← r.readElements closed 0 r.blank r.fields elements
    r.build draft
  | o => .error (o.refusal ("struct " ++ r.name))

end Record

/-- A field that must be there, if it is. -/
def require {α : Type} (name : String) : Option α → Except Fault α
  | some a => .ok a
  | none => .error (.missingField name)

/-- **Decodes a whole text**: nothing but blanks may follow the value. -/
def decode {α : Type} (d : Decoder α) (cs : List Char) : Except Fault α := do
  let document := Document.ofText cs
  let a ← d document.outline
  if document.isClean then .ok a else .error .malformed

end Json

end CertDashboard
