import ProxyProfiles.Profile.Format
import ProxyProfiles.Roster.Basic
/-!
# The stored form of a roster

A roster is stored as a JSON object with the profiles and the id of the active one, which is
`null` when there is none. Either member may be missing when it is read.
-/

namespace ProxyProfiles.Roster

open Json

/-- A roster as a JSON value. -/
def toJson (r : Roster) : Value :=
  .object [("proxies", .array (r.profiles.map Profile.toJson)),
    ("activeProxyId", match r.activeId with
      | some id => .string id
      | none => .null)]

/-- What is known of a roster while its members are read. -/
structure Members where
  profiles : Option (List Profile) := none
  activeId : Option (Option String) := none

/-- How messages speak of a roster. -/
def wanted : String := "struct StoreState"

/-- Reads the value of one member. -/
def takeMember (room : Nat) (key : String) (m : Members) : Reader Members := fun s =>
  if key = "proxies" then
    (readMember "proxies" m.profiles (readArray room (Profile.read (room - 1))) s).map fun p =>
      ({ m with profiles := p.1 }, p.2)
  else if key = "activeProxyId" then
    (readMember "activeProxyId" m.activeId (nullable readText) s).map fun p =>
      ({ m with activeId := some p.1 }, p.2)
  else passMember m s

/-- The roster of the members that were read. -/
def ofMembers (m : Members) : Roster :=
  ⟨m.profiles.getD [], m.activeId.getD none⟩

/-- Reads the members of an object. -/
def readObject (room : Nat) : Reader Roster := fun s =>
  (readMembers (takeMember room) (s.length + 1) true {} s).map fun p => (ofMembers p.1, p.2)

/-- Reads the fields of an array, both of which may be missing. -/
def readFields (room : Nat) : Reader Roster := fun s => do
  let (profiles, s) ← readField? true (readArray room (Profile.read (room - 1))) s
  let (activeId, s) ← readField? false (nullable readText) s
  return (ofMembers ⟨profiles, activeId⟩, s)

/-- Reads a roster. -/
def read (room : Nat) : Reader Roster :=
  readRecord room wanted (readFields (room - 1)) (readObject (room - 1))

/-- The roster that a JSON text holds. -/
def ofText (text : String) : Except Fault Roster :=
  readWhole (read depthLimit) text

/-- A roster as it is stored. -/
def text (r : Roster) : String :=
  r.toJson.prettyText

end ProxyProfiles.Roster
