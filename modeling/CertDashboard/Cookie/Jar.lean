import CertDashboard.Cookie

set_option autoImplicit false
set_option relaxedAutoImplicit false

/-!
# The cookie jar

A jar is a cookie string. Assignments replace the cookie of their name and put it at the end; an
assignment with a date in the past removes it.

## Main definitions

* `CertDashboard.Cookie.Jar` — the cookie string.
* `CertDashboard.Cookie.Jar.write` — one assignment.
-/

namespace CertDashboard

namespace Cookie

/-- **A jar**: a cookie string. -/
structure Jar where
  /-- The string. -/
  raw : String
  deriving DecidableEq, Repr

/-- A text cut at every semicolon that a space follows. -/
def fields : List Char → List (List Char)
  | [] => [[]]
  | ';' :: ' ' :: rest => [] :: fields rest
  | c :: rest =>
    match fields rest with
    | [] => [[c]]
    | field :: others => (c :: field) :: others

/-- Fields with a semicolon and a space between each two. -/
def joinFields : List (List Char) → List Char
  | [] => []
  | [field] => field
  | field :: next :: rest => field ++ ';' :: ' ' :: joinFields (next :: rest)

/-- The jar after one assignment to a cookie. Its old fields are dropped, and so are empty ones; the
new field goes to the end, unless the assignment removes the cookie. -/
def Jar.assign (jar : Jar) (assignment name rest : List Char) : Jar :=
  let start := name ++ ['=']
  let kept := (fields jar.raw.toList).filter fun field => !field.isEmpty && !start.isPrefixOf field
  let value := rest.takeWhile (· ≠ ';')
  let added := if Text.occurs pastDate.toList assignment then [] else [start ++ value]
  ⟨String.ofList (joinFields (kept ++ added))⟩

/-- **One assignment**: `name=value`, with attributes behind a semicolon. Without an equals sign it
is none. -/
def Jar.write (jar : Jar) (assignment : String) : Jar :=
  match assignment.toList.dropWhile (· ≠ '=') with
  | [] => jar
  | _ :: rest => jar.assign assignment.toList (assignment.toList.takeWhile (· ≠ '=')) rest

/-- The token of the session cookie. -/
def Jar.token (jar : Jar) : Option String :=
  Cookie.token jar.raw sessionName

end Cookie

end CertDashboard
