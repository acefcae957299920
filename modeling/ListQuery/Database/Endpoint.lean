import ListQuery.Network.Url
import ListQuery.Request.Form
import ListQuery.Text.Quoted

/-!
# Where a database server listens

* `Endpoint` : a place on the network or in the file system.
* `Endpoint.read` : the place that an address names, which is a URL with options in its query.
* `Endpoint.unreachable` : why no connection to an address is made, where no server listens.
-/

namespace ListQuery

/-- Where a server listens. -/
inductive Endpoint where
  /-- At a port of a host. -/
  | network (host : String) (port : Nat)
  /-- At a path of the file system. -/
  | socket (path : String)
deriving DecidableEq, Repr

/-- Why an address names no place. -/
inductive EndpointError where
  /-- It is no URL. -/
  | url (cause : UrlError)
  /-- A part of it is no text. -/
  | encoding (cause : Utf8.Fault)
  /-- An option that is a number is none. -/
  | number (cause : IntegerError)
  /-- The address of the host is none. -/
  | hostAddress
  /-- There is no such way to encrypt the connection. -/
  | encryption (mode : String)
deriving DecidableEq, Repr

namespace EndpointError

/-- The wording of an error. -/
def message : EndpointError → String
  | url cause => cause.message
  | encoding cause => cause.message
  | number cause => cause.message
  | hostAddress => "invalid IP address syntax"
  | encryption mode => "unknown value " ++ Text.quoted mode ++ " for `ssl_mode`"

/-- The wording of an error around another one. -/
def around (message : String) : String :=
  "error with configuration: " ++ message

/-- An error and those around it, the outermost first. -/
def causes (e : EndpointError) : List String :=
  match e with
  | encryption _ => [around (around e.message), around e.message, e.message]
  | _ => [around e.message, e.message]

end EndpointError

namespace Endpoint

/-! ### Options -/

/-- What an address says about the place. -/
structure Options where
  /-- The host. -/
  host : String := "localhost"
  /-- The port. -/
  port : Nat := 5432
  /-- The directory with the socket, which goes before the host. -/
  directory : Option String := none
deriving DecidableEq, Repr

/-- The place that options name. -/
def ofOptions (o : Options) : Endpoint :=
  match o.directory with
  | some directory => socket (directory ++ "/.s.PGSQL." ++ toString o.port)
  | none => network o.host o.port

/-- The ways to encrypt a connection. -/
def encryptionModes : List String :=
  ["disable", "allow", "prefer", "require", "verify-ca", "verify-full"]

/-- The greatest number of statements that a connection keeps prepared. -/
def maxStatements : Nat := 18446744073709551615

/-- The options with another host, or with a directory if the name starts with a slash. -/
def Options.withHost (o : Options) (name : String) : Options :=
  if name.toList.head? = some '/' then { o with directory := some name }
  else { o with host := name }

/-- The number up to `greatest` that an option writes. -/
def number (greatest : Nat) (value : String) : Except EndpointError Nat :=
  (Natural.read greatest value.toList).mapError .number

/-- The options with one more of the query.  Those that do not bear on the place are only
checked. -/
def Options.add (o : Options) (option : String × String) : Except EndpointError Options :=
  let (name, value) := option
  match name with
  | "host" => .ok (o.withHost value)
  | "hostaddr" =>
    if IpAddress.isAddress value.toList then .ok { o with host := value } else .error .hostAddress
  | "port" => do return { o with port := ← number Url.maxPort value }
  | "statement-cache-capacity" => do
    let _ ← number maxStatements value
    return o
  | "sslmode" | "ssl-mode" =>
    if encryptionModes.contains (Text.lowerAscii value) then .ok o else .error (.encryption value)
  | _ => .ok o

/-! ### Addresses -/

/-- The text of a part of a URL. -/
def text (part : List Char) : Except EndpointError String :=
  (Utf8.read (Percent.decode part)).mapError .encoding

/-- The options that the host and the port of a URL give. -/
def hostOptions (u : Url) : Except EndpointError Options := do
  let o : Options := {}
  let o := { o with port := u.port.getD o.port }
  if u.host.isEmpty then return o
  else if (Percent.decode u.host).head? = some 0x2F then
    return { o with directory := some (← text u.host) }
  else return { o with host := String.ofList u.host }

/-- The place that a URL names. -/
def ofUrl (u : Url) : Except EndpointError Endpoint := do
  let o ← hostOptions u
  let _ ← text u.username
  let _ ← text u.password
  let _ ← text (u.path.dropWhile (· = '/'))
  return ofOptions (← (Form.pairs u.query).foldlM Options.add o)

/-- The place that an address names. -/
def read (address : String) : Except EndpointError Endpoint := do
  ofUrl (← (Url.read address).mapError .url)

/-! ### Faults -/

/-- The greatest number of bytes of the path of a socket. -/
def maxPathLength : Nat := 107

/-- What a program meets at the path of a socket where there is none. -/
def socketFault (path : String) : String :=
  if path.toList.contains (Char.ofNat 0) then "paths must not contain interior null bytes"
  else if maxPathLength < path.utf8ByteSize then "path must be shorter than SUN_LEN"
  else "No such file or directory (os error 2)"

/-- Why no connection to a place is made, the outermost cause first, where no server listens. -/
def absent : Endpoint → List String
  | network _ _ => ["pool timed out while waiting for an open connection"]
  | socket path =>
    let fault := socketFault path
    ["error communicating with database: " ++ fault, fault]

/-- Why no connection to an address is made, the outermost cause first, where no server listens. -/
def unreachable (address : String) : List String :=
  match read address with
  | .ok place => place.absent
  | .error e => e.causes

end Endpoint

end ListQuery
