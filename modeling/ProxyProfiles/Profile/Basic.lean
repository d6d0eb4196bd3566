import ProxyProfiles.Profile.Protocol
import ProxyProfiles.Text.Blank
import ProxyProfiles.Text.Decimal
import ProxyProfiles.Text.Quoted
/-!
# Proxy profiles

A *profile* is a named proxy with a policy and a list of domains, under an id. A *draft* is the
part of a profile that a user may edit. The port of a profile is any 64-bit number, since a
stored profile is taken as it is; a draft is checked with `Draft.check` before it is stored.
-/

namespace ProxyProfiles

open Text

/-- What a proxy that asks for it is answered. -/
structure Credentials where
  /-- The name of the user. -/
  username : String
  /-- The password, possibly empty. -/
  password : String
deriving DecidableEq, Repr

/-- Credentials as they may be shown: the password is withheld. -/
def Credentials.redacted (c : Credentials) : String :=
  "Credentials \x7b username: " ++ Quoted.quoted c.username ++
    ", password: " ++ Quoted.quoted "<redacted>" ++ " \x7d"

/-- A named proxy configuration, as it is stored. -/
structure Profile where
  /-- The id under which it is stored. -/
  id : String
  /-- The name shown to the user. -/
  name : String
  /-- The protocol of the proxy. -/
  protocol : Protocol
  /-- The host of the proxy. -/
  host : String
  /-- The port of the proxy, not checked for being one. -/
  port : Int64
  /-- How the domain list is meant. -/
  policyMode : PolicyMode
  /-- The entries of the domain list. -/
  domainList : List String
  /-- The user name, if one is stored. -/
  username : Option String
  /-- The password, if one is stored. -/
  password : Option String
deriving DecidableEq, Repr

/-- The part of a profile that a user may edit. -/
structure Draft where
  /-- The name shown to the user. -/
  name : String
  /-- The protocol of the proxy. -/
  protocol : Protocol
  /-- The host of the proxy. -/
  host : String
  /-- The port of the proxy. -/
  port : Int64
  /-- How the domain list is meant. -/
  policyMode : PolicyMode := .blacklist
  /-- The entries of the domain list. -/
  domainList : List String := []
  /-- The user name, if one is to be stored. -/
  username : Option String := none
  /-- The password, if one is to be stored. -/
  password : Option String := none
deriving DecidableEq, Repr

namespace Draft

/-- A draft for a proxy, with blanks around the name and the host taken away. -/
def new (name : String) (protocol : Protocol) (host : String) (port : Int64) : Draft :=
  { name := trimmed name, protocol, host := trimmed host, port }

/-- A draft with another policy. -/
def withPolicy (d : Draft) (mode : PolicyMode) (domains : List String) : Draft :=
  { d with policyMode := mode, domainList := domains }

/-- A draft with credentials. -/
def withCredentials (d : Draft) (username password : String) : Draft :=
  { d with username := some username, password := some password }

/-- A draft needs a name, a host and a port number. Its domain list is not checked. -/
def check (d : Draft) : Except ProfileFault Unit :=
  if isBlankText d.name then .error .nameRequired
  else if isBlankText d.host then .error .hostRequired
  else if 1 ≤ d.port.toInt ∧ d.port.toInt ≤ 65535 then .ok ()
  else .error .portOutOfRange

end Draft

namespace Profile

/-- The profile that a draft becomes under an id. -/
def ofDraft (id : String) (d : Draft) : Profile where
  id
  name := d.name
  protocol := d.protocol
  host := d.host
  port := d.port
  policyMode := d.policyMode
  domainList := d.domainList
  username := d.username
  password := d.password

/-- The credentials of a profile. There are none without a user name, and an empty one is
none. -/
def credentials (p : Profile) : Option Credentials :=
  match p.username with
  | none => none
  | some u => if u = "" then none else some ⟨u, p.password.getD ""⟩

/-- Host and port, as they are written behind a scheme. -/
def endpoint (p : Profile) : String :=
  p.host ++ ":" ++ Decimal.ofInt p.port.toInt

/-- Where a profile leads and how many domains it lists, if any. -/
def summary (p : Profile) : String :=
  if p.domainList = [] then p.endpoint
  else p.endpoint ++ " · " ++ Decimal.ofNat p.domainList.length ++ " domains"

end Profile

end ProxyProfiles
