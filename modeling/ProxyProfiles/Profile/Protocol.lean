/-!
# Protocols and policy modes

Both are small enumerations with fixed names. A name given by a user may have letters of
either case, and a policy mode may be abbreviated to its label; a name in a stored profile is
read exactly.
-/

namespace ProxyProfiles

/-- Why a profile is refused. -/
inductive ProfileFault where
  /-- The name is blank. -/
  | nameRequired
  /-- The host is blank. -/
  | hostRequired
  /-- The port is no port number. -/
  | portOutOfRange
  /-- No protocol has this name. -/
  | unknownProtocol (name : String)
  /-- No policy mode has this name. -/
  | unknownMode (name : String)
deriving DecidableEq, Repr

/-- What a refusal says. -/
def ProfileFault.message : ProfileFault → String
  | nameRequired => "name is required"
  | hostRequired => "host is required"
  | portOutOfRange => "port must be between 1 and 65535"
  | unknownProtocol name => "unknown protocol: " ++ name
  | unknownMode name => "unknown policy mode: " ++ name

/-- A string with the ASCII letters in lower case. -/
def lowerCase (s : String) : String :=
  String.ofList (s.toList.map Char.toLower)

/-- The protocol between a client and its proxy. -/
inductive Protocol where
  /-- One proxy for every protocol. -/
  | all
  | http
  | https
  | socks4
  | socks5
deriving DecidableEq, Repr

namespace Protocol

/-- The name under which a protocol is stored and shown. -/
def name : Protocol → String
  | all => "all"
  | http => "http"
  | https => "https"
  | socks4 => "socks4"
  | socks5 => "socks5"

/-- The scheme by which a proxy is addressed. A proxy for every protocol speaks HTTP. -/
def scheme : Protocol → String
  | all => "http"
  | p => p.name

/-- Whether a proxy is a SOCKS proxy. -/
def isSocks : Protocol → Bool
  | socks4 | socks5 => true
  | _ => false

/-- All protocols. -/
def values : List Protocol :=
  [all, http, https, socks4, socks5]

/-- The protocol of a stored name. -/
def ofName? (s : String) : Option Protocol :=
  values.find? fun p => p.name = s

/-- The protocol of a name given by a user. -/
def parse (s : String) : Except ProfileFault Protocol :=
  match ofName? (lowerCase s) with
  | some p => .ok p
  | none => .error (.unknownProtocol (lowerCase s))

@[simp] theorem ofName?_name (p : Protocol) : ofName? p.name = some p := by
  cases p <;> decide +kernel

end Protocol

/-- How the domain list of a profile is meant. -/
inductive PolicyMode where
  /-- Everything goes through the proxy but the listed hosts. -/
  | blacklist
  /-- Only the listed hosts go through the proxy. -/
  | whitelist
deriving DecidableEq, Repr, Inhabited

namespace PolicyMode

/-- The name under which a mode is stored and shown. -/
def name : PolicyMode → String
  | blacklist => "blacklist"
  | whitelist => "whitelist"

/-- The two letters that stand for a mode on a badge and in a status line. -/
def label : PolicyMode → String
  | blacklist => "BL"
  | whitelist => "WL"

/-- Both modes. -/
def values : List PolicyMode :=
  [blacklist, whitelist]

/-- The mode of a stored name. -/
def ofName? (s : String) : Option PolicyMode :=
  values.find? fun m => m.name = s

/-- The mode of a name or a label given by a user. -/
def parse (s : String) : Except ProfileFault PolicyMode :=
  match values.find? fun m => m.name = lowerCase s ∨ lowerCase m.label = lowerCase s with
  | some m => .ok m
  | none => .error (.unknownMode (lowerCase s))

@[simp] theorem ofName?_name (m : PolicyMode) : ofName? m.name = some m := by
  cases m <;> decide +kernel

end PolicyMode

end ProxyProfiles
