import CertDashboard.Text.Quoted
import CertDashboard.Text.Split

set_option autoImplicit false
set_option relaxedAutoImplicit false

/-!
# Cookies

A cookie string is a list of pairs `name=value` with a semicolon between each two.

## Main definitions

* `CertDashboard.Cookie.lookup` — the value of the first cookie of a name.
* `CertDashboard.Cookie.pairs` — the pairs of a cookie string.
* `CertDashboard.Cookie.sessionName` — the cookie that holds the session token.
* `CertDashboard.Cookie.expiry` — the assignment that removes a cookie.

## Design

`lookup` is a machine that takes one character at a time and stops at the first cookie of the name.
`pairs` says what the pairs are without it: the string is cut at the semicolons, spaces and tabs in
front of a piece are dropped but for the first piece, and each piece that is not empty is cut at
its first equals sign. A piece without one is a value with an empty name.
-/

namespace CertDashboard

namespace Cookie

/-! ## The lookup machine -/

/-- **Where the machine stands.** The parts read so far are in reverse. -/
inductive State where
  /-- In a name, or in a piece that will turn out to be a value. -/
  | name (key : List Char)
  /-- In a value. -/
  | value (key value : List Char)
  /-- Behind a semicolon. -/
  | blank
  deriving DecidableEq, Repr

/-- The pair of a piece that ends here; none if the piece is empty. -/
def State.pair? : State → Option (List Char × List Char)
  | .name [] => none
  | .name key => some ([], key.reverse)
  | .value key text => some (key.reverse, text.reverse)
  | .blank => none

/-- The state behind a character that does not end a piece. -/
def State.step (s : State) (c : Char) : State :=
  match s with
  | .name key => if c = '=' then .value key [] else .name (c :: key)
  | .value key text => .value key (c :: text)
  | .blank =>
    if c = ' ' ∨ c = '\t' then .blank
    else if c = '=' then .value [] []
    else .name [c]

/-- The value of a pair if it has the name that is looked for. -/
def valueFor (name : List Char) : Option (List Char × List Char) → Option (List Char)
  | some (key, value) => if key = name then some value else none
  | none => none

/-- The machine, from any state. -/
def lookupFrom (name : List Char) : State → List Char → Option (List Char)
  | s, [] => valueFor name s.pair?
  | s, c :: rest =>
    if c = ';' then
      match valueFor name s.pair? with
      | some value => some value
      | none => lookupFrom name .blank rest
    else lookupFrom name (s.step c) rest

/-- **The value of the first cookie of a name.** -/
def lookup (cookies name : String) : Option String :=
  (lookupFrom name.toList (.name []) cookies.toList).map String.ofList

/-! ## The grammar -/

/-- A piece without the spaces and tabs in front of it. -/
def dropBlanks (piece : List Char) : List Char :=
  piece.dropWhile fun c => c == ' ' || c == '\t'

/-- The pair of a piece that is not empty. -/
def pair? (piece : List Char) : Option (List Char × List Char) :=
  if piece = [] then none
  else
    match piece.dropWhile (· ≠ '=') with
    | [] => some ([], piece)
    | _ :: value => some (piece.takeWhile (· ≠ '='), value)

/-- **The pairs of a cookie string**, in order. -/
def pairs (cookies : List Char) : List (List Char × List Char) :=
  match Text.split (· == ';') cookies with
  | [] => []
  | first :: others => (first :: others.map dropBlanks).filterMap pair?

/-! ## The session cookie -/

/-- **The cookie that holds the session token.** -/
def sessionName : String := "doomsday-token"

/-- The value of a cookie, an empty one counted as none. -/
def token (cookies name : String) : Option String :=
  (lookup cookies name).filter fun value => value ≠ ""

/-- What marks an assignment as one that removes its cookie. -/
def pastDate : String := "Expires=Thu, 01 Jan 1970"

/-- **The assignment that removes a cookie.** -/
def expiry (name : String) : String :=
  name ++ "=; Path=/; " ++ pastDate ++ " 00:00:01 GMT;"

/-- A session cookie in a message. -/
def describe (name : String) : String :=
  "SessionCookie \x7b name: " ++ Text.quoted name ++ ", .. \x7d"

end Cookie

end CertDashboard
