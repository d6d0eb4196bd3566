import ProxyProfiles.Json.Reader
import ProxyProfiles.Json.Value
import ProxyProfiles.Profile.Basic
/-!
# The stored form of a profile

A profile is stored as a JSON object. User name and password are left out when there is none;
a reader does without all members but `id`, `name`, `type` and `host`, and takes `protocol` for
`type`.

The port was not always a number. `null` reads as 0, a double is cut down to a whole number
within 64 bits, and of a text the whole number at its beginning counts.
-/

namespace ProxyProfiles

open Text Json

/-! ## Ports -/

namespace Port

/-- The whole number of a sign and a run of digits, or 0 if there are no digits or too large a
number. -/
def signed (negative : Bool) (ds : List Char) : Int :=
  if (Decimal.value ds : Int) ≤ Int64.maxValue.toInt then
    if negative then -(Decimal.value ds : Int) else Decimal.value ds
  else 0

/-- The whole number at the beginning of a text, behind blanks and at most one sign. -/
def ofText (s : String) : Int64 :=
  Int64.ofInt <|
    match trim s.toList with
    | '-' :: s => signed true (Decimal.split s).1
    | '+' :: s => signed false (Decimal.split s).1
    | s => signed false (Decimal.split s).1

/-- A double cut down to a whole number and kept within 64 bits; 0 if it is no number. -/
def truncated (x : Float) : Int64 :=
  if x < 0 then
    let n := (-x).toUInt64.toNat
    if n ≤ Int64.maxValue.toInt then Int64.ofInt (-n) else Int64.minValue
  else
    let n := x.toUInt64.toNat
    if n ≤ Int64.maxValue.toInt then Int64.ofInt n else Int64.maxValue

/-- A number as a port: cut down to a whole number and kept within 64 bits. -/
def ofNumber : Number → Int64
  | .integer i => if i ≤ Int64.maxValue.toInt then Int64.ofInt i else Int64.maxValue
  | .real x => truncated x

/-- The fault of a port that is neither a number nor a text. -/
def fault : Fault :=
  .mismatch "data did not match any variant of untagged enum RawPort"

/-- Reads a port that is there. Any other value is gone over to its end before it is
refused. -/
def readPresent (room : Nat) : Reader Int64 := fun s =>
  match skipSpace s with
  | '"' :: s => (readString s).map fun p => (ofText (String.ofList p.1), p.2)
  | '-' :: s => (Number.read true s).map fun p => (ofNumber p.1, p.2)
  | [] => .error .truncated
  | c :: s =>
    if c.isDigit then (Number.read false (c :: s)).map fun p => (ofNumber p.1, p.2)
    else do
      let _ ← passStrict room (c :: s)
      .error fault

/-- Reads a port. -/
def read (room : Nat) : Reader Int64 := fun s =>
  (nullable (readPresent room) s).map fun p => (p.1.getD 0, p.2)

end Port

/-! ## Writing -/

namespace Profile

/-- A profile as a JSON value. -/
def toJson (p : Profile) : Value :=
  .object <|
    [("id", .string p.id), ("name", .string p.name), ("type", .string p.protocol.name),
      ("host", .string p.host), ("port", .integer p.port.toInt),
      ("policyMode", .string p.policyMode.name),
      ("domainList", .array (p.domainList.map .string))] ++
    Value.optional "username" (p.username.map .string) ++
    Value.optional "password" (p.password.map .string)

/-! ## Reading -/

/-- What is known of a profile while its members are read. -/
structure Members where
  id : Option String := none
  name : Option String := none
  protocol : Option Protocol := none
  host : Option String := none
  port : Option Int64 := none
  policyMode : Option PolicyMode := none
  domainList : Option (List String) := none
  username : Option (Option String) := none
  password : Option (Option String) := none

/-- How messages speak of a profile. -/
def wanted : String := "struct ProxyProfile"

/-- How messages speak of a profile written as an array. -/
def wantedFields : String := "struct ProxyProfile with 9 elements"

/-- Reads a protocol. -/
def readProtocol (room : Nat) : Reader Protocol :=
  readVariant room "one of `all`, `http`, `https`, `socks4`, `socks5`" Protocol.ofName?

/-- Reads a policy mode. -/
def readMode (room : Nat) : Reader PolicyMode :=
  readVariant room "`blacklist` or `whitelist`" PolicyMode.ofName?

/-- Reads the value of one member. -/
def takeMember (room : Nat) (key : String) (m : Members) : Reader Members := fun s =>
  if key = "id" then
    (readMember "id" m.id readText s).map fun p => ({ m with id := p.1 }, p.2)
  else if key = "name" then
    (readMember "name" m.name readText s).map fun p => ({ m with name := p.1 }, p.2)
  else if key = "type" ∨ key = "protocol" then
    (readMember "type" m.protocol (readProtocol room) s).map fun p =>
      ({ m with protocol := p.1 }, p.2)
  else if key = "host" then
    (readMember "host" m.host readText s).map fun p => ({ m with host := p.1 }, p.2)
  else if key = "port" then
    (readMember "port" m.port (Port.read room) s).map fun p => ({ m with port := p.1 }, p.2)
  else if key = "policyMode" then
    (readMember "policyMode" m.policyMode (readMode room) s).map fun p =>
      ({ m with policyMode := p.1 }, p.2)
  else if key = "domainList" then
    (readMember "domainList" m.domainList (readArray room readText) s).map fun p =>
      ({ m with domainList := p.1 }, p.2)
  else if key = "username" then
    (readMember "username" m.username (nullable readText) s).map fun p =>
      ({ m with username := some p.1 }, p.2)
  else if key = "password" then
    (readMember "password" m.password (nullable readText) s).map fun p =>
      ({ m with password := some p.1 }, p.2)
  else passMember m s

/-- The profile of the members that were read. -/
def ofMembers (m : Members) : Except Fault Profile := do
  return {
    id := ← needMember "id" m.id
    name := ← needMember "name" m.name
    protocol := ← needMember "type" m.protocol
    host := ← needMember "host" m.host
    port := m.port.getD 0
    policyMode := m.policyMode.getD .blacklist
    domainList := m.domainList.getD []
    username := m.username.getD none
    password := m.password.getD none }

/-- Reads the members of an object. -/
def readObject (room : Nat) : Reader Profile := fun s => do
  let (m, s) ← readMembers (takeMember room) (s.length + 1) true {} s
  return (← ofMembers m, s)

/-- Reads the fields of an array. Those from the port on may be missing. -/
def readFields (room : Nat) : Reader Profile := fun s => do
  let (id, s) ← readField 0 wantedFields readText s
  let (name, s) ← readField 1 wantedFields readText s
  let (protocol, s) ← readField 2 wantedFields (readProtocol room) s
  let (host, s) ← readField 3 wantedFields readText s
  let (port, s) ← readField? false (Port.read room) s
  let (mode, s) ← readField? false (readMode room) s
  let (domains, s) ← readField? false (readArray room readText) s
  let (username, s) ← readField? false (nullable readText) s
  let (password, s) ← readField? false (nullable readText) s
  let m : Members := {
    id, name, protocol, host, port
    policyMode := mode, domainList := domains, username, password }
  return (← ofMembers m, s)

/-- Reads a profile. -/
def read (room : Nat) : Reader Profile :=
  readRecord room wanted (readFields (room - 1)) (readObject (room - 1))

/-- The profile that a JSON text holds. -/
def ofText (text : String) : Except Fault Profile :=
  readWhole (read depthLimit) text

end Profile

end ProxyProfiles
