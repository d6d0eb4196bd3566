import ProxyProfiles.Routing.RuleTable
import ProxyProfiles.Routing.Script
/-!
# What a profile compiles to

A whitelist becomes a routing script and a blacklist a rule table. Either is the *payload*
that is submitted to the network layer of a host.
-/

namespace ProxyProfiles

/-- What is submitted to the network layer of a host. -/
inductive Payload where
  /-- A routing script. -/
  | script (s : RoutingScript)
  /-- A rule table. -/
  | rules (t : RuleTable)
deriving DecidableEq, Repr

namespace Payload

/-- The kind of a payload, as the network layer calls it. -/
def mode : Payload → String
  | script _ => "pac_script"
  | rules _ => "fixed_servers"

/-- The text in which a payload is published. -/
def text : Payload → String
  | script s => s.text
  | rules t => t.text

end Payload

/-- The payload of a profile. -/
def Profile.compile (p : Profile) : Payload :=
  match p.policyMode with
  | .whitelist => .script (.ofProfile p)
  | .blacklist => .rules (.ofProfile p)

end ProxyProfiles
