import ProxyProfiles.Profile.Basic
import ProxyProfiles.Routing.Condition
/-!
# Routing scripts

A routing script sends a request through the proxy when one of its conditions holds for the
host of the request, and directly to the host otherwise. `text` is the script as the network
layer of a host runs it.
-/

namespace ProxyProfiles

open Text Network

/-- How a script names its proxy. -/
inductive Directive where
  /-- A proxy that speaks HTTP. -/
  | proxy (host : String) (port : Int64)
  /-- A SOCKS proxy. -/
  | socks (host : String) (port : Int64)
deriving DecidableEq, Repr

namespace Directive

/-- The directive for the proxy of a profile. -/
def ofProfile (p : Profile) : Directive :=
  if p.protocol.isSocks then socks p.host p.port else proxy p.host p.port

/-- A directive as a script returns it. -/
def text : Directive → String
  | proxy host port => "PROXY " ++ host ++ ":" ++ Decimal.ofInt port.toInt
  | socks host port => "SOCKS " ++ host ++ ":" ++ Decimal.ofInt port.toInt

end Directive

/-- What becomes of a request. -/
inductive Decision where
  /-- The request goes through a proxy. -/
  | viaProxy (d : Directive)
  /-- The request goes directly to its host. -/
  | direct
deriving DecidableEq, Repr

/-- A decision as a script returns it. -/
def Decision.text : Decision → String
  | viaProxy d => d.text
  | direct => "DIRECT"

/-- Conditions of which one is enough, and the proxy for the requests that satisfy one. -/
structure RoutingScript where
  /-- The conditions. -/
  conditions : List Condition
  /-- The proxy. -/
  proxy : Directive
deriving DecidableEq, Repr

namespace RoutingScript

/-- The script of a profile. -/
def ofProfile (p : Profile) : RoutingScript :=
  ⟨p.domainList.map Condition.ofEntry, .ofProfile p⟩

/-- What becomes of a request to a host. -/
def decide (s : RoutingScript) (host : String) (resolve : String → Option Ipv4) : Decision :=
  if s.conditions.any fun c => c.holds host resolve then .viaProxy s.proxy else .direct

/-- The expression that tells whether one of the conditions holds. -/
def disjunction (s : RoutingScript) : String :=
  if s.conditions = [] then "false"
  else joined " || " (s.conditions.map fun c => "(" ++ c.expression ++ ")")

/-- The script. -/
def text (s : RoutingScript) : String :=
  "function FindProxyForURL(url, host) \x7b\n  if (" ++ s.disjunction ++
    ") \x7b\n    return " ++ Condition.inQuotes s.proxy.text ++
    ";\n  \x7d\n  return \"DIRECT\";\n\x7d\n"

end RoutingScript

end ProxyProfiles
