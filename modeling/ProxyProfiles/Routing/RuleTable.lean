import ProxyProfiles.Json.Reader
import ProxyProfiles.Json.Value
import ProxyProfiles.Network.Address
import ProxyProfiles.Profile.Basic
/-!
# Rule tables

A rule table names proxies for the schemes of requests and lists the hosts whose requests go
to no proxy. A bypass entry covers a host

* that it equals up to the case of ASCII letters;
* that ends in the rest of the entry, or has it behind a dot in the entry, if the entry begins
  with a star;
* that ends in the entry, if the entry begins with a dot;
* that is an address in the block of addresses which the entry names otherwise.

A table is published as a JSON object in which the proxies that are not set are left out.
-/

namespace ProxyProfiles

open Text Network Json

/-- A proxy of a rule table. -/
structure Server where
  /-- The scheme by which the proxy is addressed. -/
  scheme : String
  /-- The host of the proxy. -/
  host : String
  /-- The port of the proxy. -/
  port : Int64
deriving DecidableEq, Repr

/-- Proxies by scheme, and the hosts that bypass them. -/
structure RuleTable where
  /-- The proxy for every request. -/
  singleProxy : Option Server := none
  /-- The proxy for requests over HTTP. -/
  proxyForHttp : Option Server := none
  /-- The proxy for requests over HTTPS. -/
  proxyForHttps : Option Server := none
  /-- The proxy for requests that have no other. -/
  fallbackProxy : Option Server := none
  /-- The entries that name the hosts without a proxy. -/
  bypassList : List String
deriving DecidableEq, Repr

/-- The bypass entries of a profile that lists no domains. -/
def defaultBypass : List String :=
  ["localhost", "127.0.0.1"]

/-- Whether a bypass entry covers a host. -/
def bypassCovers (host entry : String) : Bool :=
  if lowerCase entry = lowerCase host then true
  else match entry.toList with
    | '*' :: s => s.isSuffixOf host.toList || s == '.' :: host.toList
    | '.' :: s => ('.' :: s).isSuffixOf host.toList
    | _ =>
      match Address.parse? host, Block.parse? entry with
      | some a, some b => b.contains a
      | _, _ => false

namespace RuleTable

/-- The proxy of a profile. -/
def serverOf (p : Profile) : Server :=
  ⟨p.protocol.scheme, p.host, p.port⟩

/-- The bypass entries of a profile. -/
def bypassOf (p : Profile) : List String :=
  if p.domainList = [] then defaultBypass else p.domainList

/-- The rule table of a profile. Its one proxy serves what the protocol of the profile says. -/
def ofProfile (p : Profile) : RuleTable :=
  match p.protocol with
  | .all => { singleProxy := some (serverOf p), bypassList := bypassOf p }
  | .http => { proxyForHttp := some (serverOf p), bypassList := bypassOf p }
  | .https => { proxyForHttps := some (serverOf p), bypassList := bypassOf p }
  | .socks4 | .socks5 => { fallbackProxy := some (serverOf p), bypassList := bypassOf p }

/-- Whether requests to a host go to no proxy. -/
def isBypassed (t : RuleTable) (host : String) : Bool :=
  t.bypassList.any (bypassCovers host)

/-- The proxy that a scheme has of its own. -/
def slot (t : RuleTable) (scheme : String) : Option Server :=
  if scheme = "http" then t.proxyForHttp
  else if scheme = "https" then t.proxyForHttps
  else none

/-- The proxy for a request, if there is one. -/
def select (t : RuleTable) (scheme host : String) : Option Server :=
  if t.isBypassed host then none
  else t.singleProxy <|> t.slot scheme <|> t.fallbackProxy

end RuleTable

/-! ## The published form -/

namespace Server

/-- A proxy as a JSON value. -/
def toJson (s : Server) : Value :=
  .object [("scheme", .string s.scheme), ("host", .string s.host),
    ("port", .integer s.port.toInt)]

/-- What is known of a proxy while its members are read. -/
structure Members where
  scheme : Option String := none
  host : Option String := none
  port : Option Int64 := none

/-- How messages speak of a proxy. -/
def wanted : String := "struct ProxyServer"

/-- How messages speak of a proxy written as an array. -/
def wantedFields : String := "struct ProxyServer with 3 elements"

/-- Reads the value of one member. -/
def takeMember (key : String) (m : Members) : Reader Members := fun s =>
  if key = "scheme" then
    (readMember "scheme" m.scheme readText s).map fun p => ({ m with scheme := p.1 }, p.2)
  else if key = "host" then
    (readMember "host" m.host readText s).map fun p => ({ m with host := p.1 }, p.2)
  else if key = "port" then
    (readMember "port" m.port readInt64 s).map fun p => ({ m with port := p.1 }, p.2)
  else passMember m s

/-- The proxy of the members that were read. -/
def ofMembers (m : Members) : Except Fault Server := do
  return ⟨← needMember "scheme" m.scheme, ← needMember "host" m.host,
    ← needMember "port" m.port⟩

/-- Reads the members of an object. -/
def readObject : Reader Server := fun s => do
  let (m, s) ← readMembers takeMember (s.length + 1) true {} s
  return (← ofMembers m, s)

/-- Reads the fields of an array. -/
def readFields : Reader Server := fun s => do
  let (scheme, s) ← readField 0 wantedFields readText s
  let (host, s) ← readField 1 wantedFields readText s
  let (port, s) ← readField 2 wantedFields readInt64 s
  return (⟨scheme, host, port⟩, s)

/-- Reads a proxy. -/
def read (room : Nat) : Reader Server :=
  readRecord room wanted readFields readObject

end Server

namespace RuleTable

/-- A rule table as a JSON value. -/
def toJson (t : RuleTable) : Value :=
  .object <|
    Value.optional "singleProxy" (t.singleProxy.map Server.toJson) ++
    Value.optional "proxyForHttp" (t.proxyForHttp.map Server.toJson) ++
    Value.optional "proxyForHttps" (t.proxyForHttps.map Server.toJson) ++
    Value.optional "fallbackProxy" (t.fallbackProxy.map Server.toJson) ++
    [("bypassList", .array (t.bypassList.map .string))]

/-- What is known of a rule table while its members are read. -/
structure Members where
  singleProxy : Option (Option Server) := none
  proxyForHttp : Option (Option Server) := none
  proxyForHttps : Option (Option Server) := none
  fallbackProxy : Option (Option Server) := none
  bypassList : Option (List String) := none

/-- How messages speak of a rule table. -/
def wanted : String := "struct RuleTable"

/-- How messages speak of a rule table written as an array. -/
def wantedFields : String := "struct RuleTable with 5 elements"

/-- Reads a proxy that may be `null`. -/
def readServer (room : Nat) : Reader (Option Server) :=
  nullable (Server.read room)

/-- Reads the value of one member. -/
def takeMember (room : Nat) (key : String) (m : Members) : Reader Members := fun s =>
  if key = "singleProxy" then
    (readMember "singleProxy" m.singleProxy (readServer room) s).map fun p =>
      ({ m with singleProxy := some p.1 }, p.2)
  else if key = "proxyForHttp" then
    (readMember "proxyForHttp" m.proxyForHttp (readServer room) s).map fun p =>
      ({ m with proxyForHttp := some p.1 }, p.2)
  else if key = "proxyForHttps" then
    (readMember "proxyForHttps" m.proxyForHttps (readServer room) s).map fun p =>
      ({ m with proxyForHttps := some p.1 }, p.2)
  else if key = "fallbackProxy" then
    (readMember "fallbackProxy" m.fallbackProxy (readServer room) s).map fun p =>
      ({ m with fallbackProxy := some p.1 }, p.2)
  else if key = "bypassList" then
    (readMember "bypassList" m.bypassList (readArray room readText) s).map fun p =>
      ({ m with bypassList := p.1 }, p.2)
  else passMember m s

/-- The rule table of the members that were read. -/
def ofMembers (m : Members) : Except Fault RuleTable := do
  return {
    singleProxy := m.singleProxy.getD none
    proxyForHttp := m.proxyForHttp.getD none
    proxyForHttps := m.proxyForHttps.getD none
    fallbackProxy := m.fallbackProxy.getD none
    bypassList := ← needMember "bypassList" m.bypassList }

/-- Reads the members of an object. -/
def readObject (room : Nat) : Reader RuleTable := fun s => do
  let (m, s) ← readMembers (takeMember room) (s.length + 1) true {} s
  return (← ofMembers m, s)

/-- Reads the fields of an array. All must be there, since the last one must. -/
def readFields (room : Nat) : Reader RuleTable := fun s => do
  let (single, s) ← readField? true (readServer room) s
  let (http, s) ← readField? false (readServer room) s
  let (https, s) ← readField? false (readServer room) s
  let (fallback, s) ← readField? false (readServer room) s
  let (bypass, s) ← readField 4 wantedFields (readArray room readText) s
  let m : Members := {
    singleProxy := single, proxyForHttp := http, proxyForHttps := https
    fallbackProxy := fallback, bypassList := bypass }
  return (← ofMembers m, s)

/-- Reads a rule table. -/
def read (room : Nat) : Reader RuleTable :=
  readRecord room wanted (readFields (room - 1)) (readObject (room - 1))

/-- The rule table that a JSON text holds. -/
def ofText (text : String) : Except Fault RuleTable :=
  readWhole (read depthLimit) text

/-- A rule table as it is published. -/
def text (t : RuleTable) : String :=
  t.toJson.prettyText

end RuleTable

end ProxyProfiles
