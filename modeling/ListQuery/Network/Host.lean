import ListQuery.Network.IpAddress
import ListQuery.Network.Punycode
import ListQuery.Text.Case
import ListQuery.Text.Split
import ListQuery.Text.Utf8

/-!
# Hosts of URLs

* `UrlError` : why a text is no URL.
* `Host.ofOpaque` : a host of a URL in general.
* `Host.ofDomain` : a host of a URL of the web, which is a domain name or an address.

An address of version 6 stands between brackets in either.
-/

namespace ListQuery

/-- Why a text is no URL. -/
inductive UrlError where
  /-- There is no scheme. -/
  | relative
  /-- There is no host. -/
  | emptyHost
  /-- The host is no domain name. -/
  | domainName
  /-- The host has a character that hosts do not have. -/
  | hostCharacter
  /-- The host ends like an address of version 4 and is none. -/
  | version4
  /-- The host is in brackets and no address of version 6. -/
  | version6
  /-- The port is no number of sixteen bits. -/
  | port
deriving DecidableEq, Repr

/-- The wording of an error. -/
def UrlError.message : UrlError → String
  | relative => "relative URL without a base"
  | emptyHost => "empty host"
  | domainName => "invalid international domain name"
  | hostCharacter => "invalid domain character"
  | version4 => "invalid IPv4 address"
  | version6 => "invalid IPv6 address"
  | port => "invalid port number"

namespace Host

/-- A host that starts with a bracket. -/
def ofBrackets (cs : List Char) : Except UrlError (List Char) :=
  if cs.getLast? = some ']' ∧ IpAddress.isVersion6 (cs.drop 1).dropLast then .ok cs
  else .error .version6

/-- A character that no host has. -/
def isForbidden (c : Char) : Bool :=
  c.toNat = 0 || "\t\n\r #/:<>?@[\\]^|".toList.contains c

/-- A host of a URL in general; percent signs may stand for bytes of it. -/
def ofOpaque (cs : List Char) : Except UrlError (List Char) :=
  if cs.head? = some '[' then ofBrackets cs
  else if cs.any isForbidden then .error .hostCharacter
  else .ok cs

/-- A character that no domain name has. -/
def isForbiddenInDomain (c : Char) : Bool :=
  isForbidden c || c.toNat < 32 || c.toNat = 127 || c = '%' || c = Utf8.replacement

/-- A label that starts with `xn--` stands for another one: this has characters outside ASCII, none
of which has another form in lower case. -/
def isLabel (cs : List Char) : Bool :=
  match Text.dropFront? "xn--".toList cs with
  | none => true
  | some rest =>
    match Punycode.decode? rest with
    | some chars => !chars.isEmpty && chars.all fun c => 0xA0 ≤ c.toNat && Text.lowerChar c = [c]
    | none => false

/-- A host of a URL of the web. -/
def ofDomain (cs : List Char) : Except UrlError (List Char) :=
  if cs.head? = some '[' then ofBrackets cs
  else
    let name := (Utf8.decode (Percent.decode cs)).map Char.toLower
    if cs.isEmpty then .error .emptyHost
    else if name.any isForbiddenInDomain || !(name.splitOn '.').all isLabel then .error .domainName
    else if IpAddress.endsInNumber name && !IpAddress.isLooseVersion4 name then .error .version4
    else .ok name

end Host

end ListQuery
