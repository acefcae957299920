import ListQuery.Network.Host
import ListQuery.Network.Path
import ListQuery.Number.Integer

/-!
# URLs

* `Url` : the parts of a URL.
* `Url.read` : the parts of the URL that a text writes.

Spaces and control characters at the ends of the text, and tabs and ends of lines anywhere, do not
count.  There are three kinds of schemes: those of the web always have a host, that of files has one
perhaps, and any other has one behind two slashes.
-/

namespace ListQuery

/-- The parts of a URL, in which percent signs may stand for bytes.  A part that is missing is
empty, and so is the password of a user without one. -/
structure Url where
  /-- The user. -/
  username : List Char := []
  /-- The password of the user. -/
  password : List Char := []
  /-- The host. -/
  host : List Char := []
  /-- The port, if it is not the usual one. -/
  port : Option Nat := none
  /-- The path. -/
  path : List Char := []
  /-- What follows the question mark. -/
  query : List Char := []
deriving DecidableEq, Repr

namespace Url

/-! ### The text as a whole -/

/-- A control character or a space; such do not count at the ends of a text. -/
def isIgnoredAtEnd (c : Char) : Bool :=
  c.toNat ≤ 32

/-- A tab or the end of a line; such do not count anywhere in a text. -/
def isIgnored (c : Char) : Bool :=
  c = '\t' || c = '\n' || c = '\r'

/-- The characters of a text that count. -/
def significant (s : String) : List Char :=
  let cs := s.toList.dropWhile isIgnoredAtEnd
  ((cs.reverse.dropWhile isIgnoredAtEnd).reverse).filter fun c => !isIgnored c

/-- A character of a scheme. -/
def isSchemeChar (c : Char) : Bool :=
  c.isAlphanum || c = '+' || c = '-' || c = '.'

/-- The scheme in lower case, and the text behind its colon. -/
def cutScheme? (cs : List Char) : Option (String × List Char) := do
  let (scheme, rest) ← Text.cut? ':' cs
  if scheme.head?.any Char.isAlpha && scheme.all isSchemeChar then
    some (String.ofList (scheme.map Char.toLower), rest)
  else none

/-- The usual port of a scheme of the web. -/
def usualPort? (scheme : String) : Option Nat :=
  [("http", 80), ("https", 443), ("ws", 80), ("wss", 443), ("ftp", 21)].lookup scheme

/-! ### The authority -/

/-- The parts before and after the last `sep`, if there is one. -/
def cutLast? (sep : Char) (cs : List Char) : Option (List Char × List Char) :=
  (Text.cut? sep cs.reverse).map fun p => (p.2.reverse, p.1.reverse)

/-- The host and what follows it; a colon between brackets is part of the host. -/
def cutHost (inBrackets : Bool) : List Char → List Char × List Char
  | [] => ([], [])
  | c :: cs =>
    if c = ':' && !inBrackets then ([], c :: cs)
    else
      let (host, rest) := cutHost (c = '[' || (inBrackets && c ≠ ']')) cs
      (c :: host, rest)

/-- The greatest port. -/
def maxPort : Nat := 65535

/-- The port behind a colon, if both are there, and the rest, which a backslash starts at most. -/
def readPort : List Char → Except UrlError (Option Nat × List Char)
  | ':' :: cs =>
    let digits := cs.takeWhile Char.isDigit
    let rest := cs.dropWhile Char.isDigit
    if rest.head?.all (· = '\\') && Digits.value digits ≤ maxPort then
      .ok (if digits.isEmpty then none else some (Digits.value digits), rest)
    else .error .port
  | cs => .ok (none, cs)

/-- A character that ends the authority; a backslash does so in a URL of the web. -/
def isAuthorityEnd (ofWeb : Bool) (c : Char) : Bool :=
  c = '/' || c = '?' || c = '#' || (ofWeb && c = '\\')

/-- The user, the host and the port, and the text behind them. -/
def readAuthority (ofWeb : Bool) (cs : List Char) : Except UrlError (Url × List Char) := do
  let front := cs.takeWhile fun c => !isAuthorityEnd ofWeb c
  let rest := cs.dropWhile fun c => !isAuthorityEnd ofWeb c
  let (user, place) := (cutLast? '@' front).getD ([], front)
  if front = ['@'] ∧ rest ≠ [] then throw .emptyHost
  let (username, password) := (Text.cut? ':' user).getD (user, [])
  let (host, behind) := cutHost false place
  let host ← if ofWeb then Host.ofDomain host else Host.ofOpaque host
  if host = [] ∧ (username ≠ [] ∨ password ≠ [] ∨ behind ≠ []) then throw .emptyHost
  let (port, behind) ← readPort behind
  return ({ username, password, host, port }, behind ++ rest)

/-! ### The parts behind the authority -/

/-- The text up to a question mark or a number sign. -/
def beforeQuery (cs : List Char) : List Char :=
  cs.takeWhile fun c => c ≠ '?' && c ≠ '#'

/-- What stands between the question mark, if that comes first, and a number sign. -/
def queryOf (cs : List Char) : List Char :=
  match cs.dropWhile fun c => c ≠ '?' && c ≠ '#' with
  | '?' :: query => query.takeWhile (· ≠ '#')
  | _ => []

/-- The URL with the path and query of the text behind its authority. -/
def withRest (u : Url) (path : List Char → List Char) (cs : List Char) : Url :=
  { u with path := path (beforeQuery cs), query := queryOf cs }

/-- A path in which a backslash is a slash. -/
def webPath (inFileSystem : Bool) (cs : List Char) : List Char :=
  UrlPath.read inFileSystem (Text.replaceChar '\\' ['/'] cs)

/-- A path that may be empty. -/
def generalPath (cs : List Char) : List Char :=
  if cs.isEmpty then [] else UrlPath.read false cs

/-! ### The kinds of schemes -/

/-- A slash of either direction. -/
def isAnySlash (c : Char) : Bool :=
  c = '/' || c = '\\'

/-- A URL of the web, behind its scheme; any number of slashes may follow that. -/
def readWeb (usualPort : Nat) (cs : List Char) : Except UrlError Url := do
  let (u, rest) ← readAuthority true (cs.dropWhile isAnySlash)
  let u := { u with port := u.port.filter (· ≠ usualPort) }
  return u.withRest (webPath false) rest

/-- The URL of a file, behind its scheme.  The host `localhost` counts as none, and a drive is part
of the path. -/
def readFile (cs : List Char) : Except UrlError Url := do
  if (cs.take 2).length = 2 ∧ (cs.take 2).all isAnySlash then
    let cs := cs.drop 2
    let host := cs.takeWhile fun c => !isAuthorityEnd true c
    if UrlPath.isDrive host then return withRest {} (webPath true) cs
    let name ← if host.isEmpty then pure [] else Host.ofDomain host
    let u : Url := { host := if name = "localhost".toList then [] else name }
    return u.withRest (webPath true) (cs.drop host.length)
  else return withRest {} (webPath true) cs

/-- A URL of another scheme, behind that. -/
def readGeneral (cs : List Char) : Except UrlError Url :=
  match cs with
  | '/' :: '/' :: cs => do
    let (u, rest) ← readAuthority false cs
    return u.withRest generalPath rest
  | '/' :: _ => .ok (withRest {} generalPath cs)
  | _ => .ok (withRest {} id cs)

/-- The parts of the URL that a text writes. -/
def read (s : String) : Except UrlError Url :=
  match cutScheme? (significant s) with
  | none => .error .relative
  | some (scheme, rest) =>
    match usualPort? scheme with
    | some port => readWeb port rest
    | none => if scheme = "file" then readFile rest else readGeneral rest

end Url

end ListQuery
