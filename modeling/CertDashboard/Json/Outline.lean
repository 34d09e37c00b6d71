import CertDashboard.Json.Lexeme

set_option autoImplicit false
set_option relaxedAutoImplicit false

/-!
# The outline of a text

A text need not be JSON to be read: a reader goes from left to right and may be content, or may
have found a fault of its own, before the place where the text breaks. An outline is what there is
to see on the way: the value so far, with a mark at the place where it breaks.

## Main definitions

* `CertDashboard.Json.Outline` — a value, or as much of one as a text has before it breaks.
* `CertDashboard.Json.Progress` — where a reader of lexemes stands.
* `CertDashboard.Json.Progress.step` — one lexeme.
* `CertDashboard.Json.Document.ofText` — the outline of a text, and whether nothing follows it.
* `CertDashboard.Json.Outline.isWhole` — whether an outline breaks nowhere.
* `CertDashboard.Json.outline` — the outline of a value.

## Design

The reader is an automaton with a stack: `step` takes one lexeme, and a text is read by folding
`step` over its lexemes. Every state can be closed at any time (`Progress.outline`), which is what
happens at the first lexeme that cannot go on.
-/

namespace CertDashboard

namespace Json

/-- **An outline**: a value, or as much of one as a text has before it breaks. -/
inductive Outline where
  /-- The text breaks here. -/
  | broken
  /-- The word `null`. -/
  | null
  /-- A truth value. -/
  | bool (b : Bool)
  /-- A number literal. -/
  | number (n : Number)
  /-- A string. -/
  | string (t : Content)
  /-- An array, and whether its closing bracket is there. -/
  | array (elements : List Outline) (closed : Bool)
  /-- An object, and whether its closing brace is there. -/
  | object (members : List (Content × Outline)) (closed : Bool)

/-- **A container that is still open**, around a value that is being read. Its parts so far are in
reverse. -/
inductive Frame where
  /-- An array and its elements. -/
  | array (done : List Outline)
  /-- An object, its members, and the key of the value that is being read. -/
  | object (done : List (Content × Outline)) (key : Content)

/-- The container with the value that was being read in it, if the text breaks there. -/
def Frame.breakWith (o : Outline) : Frame → Outline
  | .array done => .array (done.reverse ++ [o]) false
  | .object done key => .object (done.reverse ++ [(key, o)]) false

/-- All open containers, innermost first, if the text breaks inside of them. -/
def breakAll (o : Outline) (frames : List Frame) : Outline :=
  frames.foldl Frame.breakWith o

/-- **Where a reader stands**, with the open containers around. -/
inductive Progress where
  /-- A value is due. -/
  | value (frames : List Frame)
  /-- Behind an opening bracket: a value or the closing bracket is due. -/
  | arrayStart (frames : List Frame)
  /-- Behind an element: a comma or the closing bracket is due. -/
  | arrayNext (frames : List Frame) (done : List Outline)
  /-- Behind an opening brace: a key or the closing brace is due. -/
  | objectStart (frames : List Frame)
  /-- Behind a comma of an object: a key is due. -/
  | objectKey (frames : List Frame) (done : List (Content × Outline))
  /-- Behind a key: a colon is due. -/
  | objectColon (frames : List Frame) (done : List (Content × Outline)) (key : Content)
  /-- Behind a member: a comma or the closing brace is due. -/
  | objectNext (frames : List Frame) (done : List (Content × Outline))
  /-- Behind the whole value: nothing is due. -/
  | finished (o : Outline)
  /-- Something follows the whole value. -/
  | trailed (o : Outline)
  /-- The text broke. -/
  | stuck (o : Outline)

namespace Progress

/-- The outline seen so far, if the text breaks here. -/
def outline : Progress → Outline
  | .value frames => breakAll .broken frames
  | .arrayStart frames => breakAll (.array [] false) frames
  | .arrayNext frames done => breakAll (.array done.reverse false) frames
  | .objectStart frames => breakAll (.object [] false) frames
  | .objectKey frames done => breakAll (.object done.reverse false) frames
  | .objectColon frames done key =>
    breakAll (.object (done.reverse ++ [(key, .broken)]) false) frames
  | .objectNext frames done => breakAll (.object done.reverse false) frames
  | .finished o => o
  | .trailed o => o
  | .stuck o => o

/-- Behind a value that has been read: it goes into the innermost open container. -/
def deliver (o : Outline) : List Frame → Progress
  | [] => .finished o
  | .array done :: frames => .arrayNext frames (o :: done)
  | .object done key :: frames => .objectNext frames ((key, o) :: done)

/-- A lexeme where a value is due. -/
def stepValue (frames : List Frame) : Lexeme → Progress
  | .null => deliver .null frames
  | .bool b => deliver (.bool b) frames
  | .number n => deliver (.number n) frames
  | .string t => deliver (.string t) frames
  | .openArray => .arrayStart frames
  | .openObject => .objectStart frames
  | _ => .stuck (breakAll .broken frames)

/-- **One lexeme.** -/
def step : Progress → Lexeme → Progress
  | .value frames, l => stepValue frames l
  | .arrayStart frames, .closeArray => deliver (.array [] true) frames
  | .arrayStart frames, l => stepValue (.array [] :: frames) l
  | .arrayNext frames done, .comma => .value (.array done :: frames)
  | .arrayNext frames done, .closeArray => deliver (.array done.reverse true) frames
  | .objectStart frames, .closeObject => deliver (.object [] true) frames
  | .objectStart frames, .string key => .objectColon frames [] key
  | .objectKey frames done, .string key => .objectColon frames done key
  | .objectColon frames done key, .colon => .value (.object done key :: frames)
  | .objectNext frames done, .comma => .objectKey frames done
  | .objectNext frames done, .closeObject => deliver (.object done.reverse true) frames
  | .finished o, _ => .trailed o
  | .trailed o, _ => .trailed o
  | p, _ => .stuck p.outline

/-- Whether nothing but blanks follows the value. -/
def isClean : Progress → Bool
  | .trailed _ => false
  | _ => true

end Progress

/-- **A text as a whole**: its outline, and whether nothing follows the value. -/
structure Document where
  /-- What there is to see of the value. -/
  outline : Outline
  /-- Whether nothing but blanks follows it. -/
  isClean : Bool

/-- A list of lexemes as a whole. -/
def Document.ofLexemes (ls : List Lexeme) : Document :=
  let p := ls.foldl Progress.step (.value [])
  ⟨p.outline, p.isClean⟩

/-- **A text as a whole.** -/
def Document.ofText (cs : List Char) : Document :=
  .ofLexemes (Lexeme.scan cs)

mutual

/-- **Whole**: the outline breaks nowhere. -/
def Outline.isWhole : Outline → Bool
  | .broken => false
  | .null | .bool _ | .number _ | .string _ => true
  | .array elements closed => areWhole elements && closed
  | .object members closed => areWholeMembers members && closed

/-- No element breaks. -/
def areWhole : List Outline → Bool
  | [] => true
  | o :: rest => o.isWhole && areWhole rest

/-- No member breaks. -/
def areWholeMembers : List (Content × Outline) → Bool
  | [] => true
  | (_, o) :: rest => o.isWhole && areWholeMembers rest

end

mutual

/-- **The outline of a value.** -/
def outline : Json → Outline
  | .null => .null
  | .bool b => .bool b
  | .number n => .number n
  | .string s => .string (.ofString s)
  | .array elements => .array (outlines elements) true
  | .object members => .object (memberOutlines members) true

/-- The outlines of several values. -/
def outlines : List Json → List Outline
  | [] => []
  | v :: rest => v.outline :: outlines rest

/-- The outlines of several members. -/
def memberOutlines : List (String × Json) → List (Content × Outline)
  | [] => []
  | (k, v) :: rest => (.ofString k, v.outline) :: memberOutlines rest

end

end Json

end CertDashboard
