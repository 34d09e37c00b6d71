import CertDashboard.Url.Host

set_option autoImplicit false
set_option relaxedAutoImplicit false

/-!
# Web addresses

## Main definitions

* `CertDashboard.Url` — an address with the scheme `http` or `https`, and `Url.render`.
* `CertDashboard.Url.Target` — what a text addresses: a web address, or another scheme.
* `CertDashboard.Url.Target.parse` — the target of a text.
* `CertDashboard.Url.withPath` — another path on the same host.

## Design

Reading is forgiving. Blanks and controls around the text are dropped, and so are tabs and line ends
inside of it; a backslash counts as a slash; the slashes behind the scheme may be missing. What is
kept of a text is its normal form, so the address can be written from its parts.

Addresses with other schemes are read far enough to know whether they are addresses at all.
-/

namespace CertDashboard

namespace Url

/-- **The schemes of the web.** -/
inductive Scheme where
  /-- Without encryption. -/
  | http
  /-- With encryption. -/
  | https
  deriving DecidableEq, Repr

/-- The name of a scheme. -/
def Scheme.name : Scheme → List Char
  | .http => "http".toList
  | .https => "https".toList

/-- The port of a scheme that is not written. -/
def Scheme.port : Scheme → Nat
  | .http => 80
  | .https => 443

/-- **User, password, host and port**, the first two encoded, the last one absent if usual. -/
structure Authority where
  /-- User name, possibly empty. -/
  user : List Char
  /-- Password, possibly empty. -/
  password : List Char
  /-- Host. -/
  host : Host
  /-- Port, unless it is the usual one. -/
  port : Option Nat
  deriving DecidableEq, Repr

/-- The text of an authority. -/
def Authority.render (a : Authority) : List Char :=
  (if a.user = [] ∧ a.password = [] then []
    else a.user ++ (if a.password = [] then [] else ':' :: a.password) ++ ['@']) ++
    a.host.render ++
    (match a.port with
      | none => []
      | some n => ':' :: Decimal.digits n)

/-- **Path, query and fragment**, encoded. -/
structure Resource where
  /-- Segments of the path, without the slash in front of each. -/
  path : List (List Char)
  /-- Query, if there is one. -/
  query : Option (List Char)
  /-- Fragment, if there is one. -/
  fragment : Option (List Char)
  deriving DecidableEq, Repr

/-- The text of a path. -/
def renderPath (path : List (List Char)) : List Char :=
  path.flatMap ('/' :: ·)

/-- The text of a resource. -/
def Resource.render (r : Resource) : List Char :=
  renderPath r.path ++
    (match r.query with
      | none => []
      | some q => '?' :: q) ++
    (match r.fragment with
      | none => []
      | some f => '#' :: f)

end Url

/-- **A web address.** -/
structure Url where
  /-- Scheme. -/
  scheme : Url.Scheme
  /-- User, password, host and port. -/
  authority : Url.Authority
  /-- Path, query and fragment. -/
  resource : Url.Resource
  deriving DecidableEq, Repr

namespace Url

/-- **The text of an address.** -/
def render (u : Url) : String :=
  String.ofList (u.scheme.name ++ "://".toList ++ u.authority.render ++ u.resource.render)

/-- The path of an address. -/
def path (u : Url) : String :=
  String.ofList (renderPath u.resource.path)

/-! ## Reading the parts -/

/-- A text without the blanks and controls around it and the tabs and line ends inside of it. -/
def tidy (cs : List Char) : List Char :=
  let outer := fun c : Char => decide (c.toNat ≤ 0x20)
  let inner := fun c : Char => c != '\t' && c != '\n' && c != '\r'
  (((cs.dropWhile outer).reverse.dropWhile outer).reverse).filter inner

/-- Whether a character may stand in a scheme behind its first letter. -/
def inScheme (c : Char) : Bool :=
  c.isAlpha || c.isDigit || c == '+' || c == '-' || c == '.'

/-- The scheme of a text in lower case, and what follows its colon. -/
def scheme? (cs : List Char) : Option (List Char × List Char) :=
  match cs.head?, cs.dropWhile inScheme with
  | some c, ':' :: rest =>
    if c.isAlpha then some ((cs.takeWhile inScheme).map Char.toLower, rest) else none
  | _, _ => none

/-- Whether a character ends the authority; a backslash does if it counts as a slash. -/
def endsAuthority (backslash : Bool) (c : Char) : Bool :=
  c == '/' || c == '?' || c == '#' || (backslash && c == '\\')

/-- The part behind the last at sign and the part in front of it, if there is one. -/
def cutUser (cs : List Char) : Option (List Char) × List Char :=
  match (cs.reverse.dropWhile (· ≠ '@')) with
  | [] => (none, cs)
  | _ :: user => (some user.reverse, (cs.reverse.takeWhile (· ≠ '@')).reverse)

/-- User name and password, encoded. -/
def readUser (cs : List Char) : List Char × List Char :=
  (percentEncode inUserSet (cs.takeWhile (· ≠ ':')),
    percentEncode inUserSet (cs.dropWhile (· ≠ ':')).tail)

/-- The host and what follows it: it goes on to a colon that is in no brackets. -/
def cutHost (inBrackets : Bool) : List Char → List Char × List Char
  | [] => ([], [])
  | c :: rest =>
    if c = ':' ∧ inBrackets = false then ([], c :: rest)
    else
      let inside := if c = '[' then true else if c = ']' then false else inBrackets
      (c :: (cutHost inside rest).1, (cutHost inside rest).2)

/-- A port: digits, at most `65535`, possibly none. A backslash and what follows it is not looked
at. -/
def port? (cs : List Char) : Except Fault (Option Nat) :=
  let ds := cs.takeWhile (· ≠ '\\')
  if ds = [] then .ok none
  else
    match Decimal.read? ds with
    | some n => if n ≤ 65535 then .ok (some n) else .error .port
    | none => .error .port

/-- The port behind a host: nothing, or a colon and a port. -/
def portOf (cs : List Char) : Except Fault (Option Nat) :=
  match cs with
  | ':' :: ds => port? ds
  | _ => .ok none

/-- **The authority of an address whose scheme has hosts.** -/
def Authority.parse (usual : Option Nat) (cs : List Char) : Except Fault Authority := do
  let (user?, rest) := cutUser cs
  let (name, tail) := cutHost false rest
  if name = [] then .error .emptyHost
  else
    let host ← Host.parse name
    let port ← portOf tail
    let (user, password) := match user? with
      | none => ([], [])
      | some u => readUser u
    .ok ⟨user, password, host, if port = usual then none else port⟩

/-- Whether a segment stands for the path itself. -/
def isDot (segment : List Char) : Bool :=
  segment = ['.'] || segment.map Char.toLower = ['%', '2', 'e']

/-- Whether a segment stands for the path above. -/
def isDotDot (segment : List Char) : Bool :=
  segment.map Char.toLower ∈
    [['.', '.'], ['.', '%', '2', 'e'], ['%', '2', 'e', '.'], ['%', '2', 'e', '%', '2', 'e']]

/-- Whether two characters name a drive, which is neither a host nor left for the path above. -/
def isDrive : List Char → Bool
  | [letter, mark] => letter.isAlpha && (mark == ':' || mark == '|')
  | _ => false

/-- The segments of the path above. All segments are in reverse. -/
def above : List (List Char) → List (List Char)
  | [] => []
  | s :: rest => if isDrive s then s :: rest else rest

/-- A path from its segments, those that stand for another path resolved. The segments so far are in
reverse. -/
def resolve (done : List (List Char)) : List (List Char) → List (List Char)
  | [] => done.reverse
  | [s] =>
    if isDotDot s then ([] :: above done).reverse
    else if isDot s then ([] :: done).reverse
    else (s :: done).reverse
  | s :: t :: rest =>
    if isDotDot s then resolve (above done) (t :: rest)
    else if isDot s then resolve done (t :: rest)
    else resolve (s :: done) (t :: rest)

/-- A slash or a backslash. -/
def isSlash (c : Char) : Bool :=
  c == '/' || c == '\\'

/-- The segments between slashes, as they are written. -/
def segments (cs : List Char) : List (List Char) :=
  (Text.split isSlash cs).map (percentEncode inPathSet)

/-- The segments of a path, whose first slash may be missing. -/
def readPath (cs : List Char) : List (List Char) :=
  let body := match cs with
    | c :: rest => if isSlash c then rest else c :: rest
    | [] => []
  resolve [] (segments body)

/-- **Path, query and fragment of an address.** -/
def Resource.parse (cs : List Char) : Resource :=
  let whole := cs.takeWhile (· ≠ '#')
  { path := readPath (whole.takeWhile (· ≠ '?'))
    query := match whole.dropWhile (· ≠ '?') with
      | [] => none
      | _ :: q => some (percentEncode inQuerySet q)
    fragment := match cs.dropWhile (· ≠ '#') with
      | [] => none
      | _ :: f => some (percentEncode inFragmentSet f) }

/-- An address from what follows its scheme and colon. -/
def ofRest (scheme : Scheme) (cs : List Char) : Except Fault Url := do
  let body := cs.dropWhile isSlash
  let authority ← Authority.parse (some scheme.port) (body.takeWhile fun c => !endsAuthority true c)
  .ok ⟨scheme, authority, Resource.parse (body.dropWhile fun c => !endsAuthority true c)⟩

/-! ## Other schemes -/

/-- Schemes other than the web's that have hosts, with their usual ports. -/
def otherPorts : List (List Char × Nat) :=
  [("ftp".toList, 21), ("ws".toList, 80), ("wss".toList, 443)]

/-- Reads what follows the colon of the scheme `file`: behind two slashes there may be a host. -/
def checkFile (cs : List Char) : Except Fault Unit :=
  match cs with
  | a :: b :: rest =>
    let name := rest.takeWhile fun c => !endsAuthority true c
    if isSlash a && isSlash b && name ≠ [] && !isDrive name then (Host.parse name).map fun _ => ()
    else .ok ()
  | _ => .ok ()

/-- Reads what follows the colon of any other scheme: behind two slashes there is an authority, in
which the host may be empty if there is neither a user, nor a password, nor a port. -/
def checkOther (cs : List Char) : Except Fault Unit :=
  match cs with
  | '/' :: '/' :: rest => do
    let body := rest.takeWhile fun c => !endsAuthority false c
    let (user?, tail) := cutUser body
    let (name, port) := cutHost false tail
    let host ← Host.parseName name
    if host = .domain [] ∧ (port ≠ [] ∨ user?.any (fun u => u ≠ [] ∧ u ≠ [':']) = true ∨
        (user? = some [] ∧ rest.dropWhile (fun c => !endsAuthority false c) ≠ [])) then
      .error .emptyHost
    else (portOf port).map fun _ => ()
  | _ => .ok ()

/-- **What a text addresses.** -/
inductive Target where
  /-- A web address. -/
  | web (url : Url)
  /-- An address with another scheme. -/
  | other (scheme : List Char)

/-- **The target of a text.** -/
def Target.parse (text : String) : Except Fault Target :=
  match scheme? (tidy text.toList) with
  | none => .error .noScheme
  | some (scheme, rest) =>
    if scheme = Scheme.http.name then (ofRest .http rest).map .web
    else if scheme = Scheme.https.name then (ofRest .https rest).map .web
    else if scheme = "file".toList then (checkFile rest).map fun _ => .other scheme
    else
      match otherPorts.lookup scheme with
      | some port =>
        let body := (rest.dropWhile isSlash).takeWhile fun c => !endsAuthority true c
        (Authority.parse (some port) body).map fun _ => .other scheme
      | none => (checkOther rest).map fun _ => .other scheme

/-- **Whether a text is a web address.** -/
def isWeb (text : String) : Bool :=
  match Target.parse text with
  | .ok (.web _) => true
  | _ => false

/-- A text is a web address if reading it gives one. -/
theorem isWeb_iff {text : String} :
    isWeb text = true ↔ ∃ url, Target.parse text = .ok (.web url) := by
  unfold isWeb
  split
  · next url hparse => simp [hparse]
  · next hother => simpa using hother

/-! ## Other paths on the same host -/

/-- **Another path on the same host**: the reference is a path with a slash in front; neither the
path nor the query nor the fragment of the address is kept. -/
def withPath (u : Url) (reference : String) : Url :=
  { u with resource := Resource.parse reference.toList }

/-- A path is resolved within the same scheme. -/
@[simp] theorem scheme_withPath (u : Url) (reference : String) :
    (u.withPath reference).scheme = u.scheme := rfl

/-- A path is resolved at the same authority. -/
@[simp] theorem authority_withPath (u : Url) (reference : String) :
    (u.withPath reference).authority = u.authority := rfl

end Url

end CertDashboard
