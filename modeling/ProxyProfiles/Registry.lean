import ProxyProfiles.Switch
/-!
# The registry of profiles

The registry owns the stored profiles and the choice of the active one, with a store to keep
them and a host to enforce the active one. Profiles are added, changed and removed; one is made
active or none is; and after the program was stopped the active profile is put in force again.

A change of the active profile is submitted to the host after it is saved; a new choice is
saved after the host has accepted it.

Adding is done in two steps, `startAdd` from what is stored to the new id and `finishAdd` with
the writing, since between the two somebody else may write.
-/

namespace ProxyProfiles

/-- What restoring found. -/
inductive Restored where
  /-- The active profile is in force again. -/
  | applied (id : String)
  /-- The active id is that of no stored profile. -/
  | dangling (id : String)
  /-- No profile was active. -/
  | direct
deriving DecidableEq, Repr

/-- Which profiles there are and which is active. -/
structure Status where
  /-- The active profile, if it is stored. -/
  active : Option Profile
  /-- The stored profiles. -/
  profiles : List Profile
deriving DecidableEq, Repr

/-- What is active, in a few words. -/
def Status.text (s : Status) : String :=
  match s.active with
  | some p => p.name ++ " [" ++ p.policyMode.label ++ "]"
  | none => "Direct connection"

/-- The profile that replaces a stored one: the draft, with the stored credentials if the draft
has no user name. -/
def Profile.revised (stored : Profile) (id : String) (d : Draft) : Profile :=
  let new := Profile.ofDraft id d
  if new.username = none then
    { new with username := stored.username, password := stored.password }
  else new

/-- A profile on its way to the store. -/
structure Addition where
  /-- The profile. -/
  profile : Profile
  /-- The profiles that were stored when its id was chosen. -/
  found : List Profile
deriving DecidableEq, Repr

/-- A store and a host for the profiles. -/
structure Registry (ω : Type) where
  /-- Where the profiles are kept. -/
  store : Store ω
  /-- What enforces the active one. -/
  host : Host ω

namespace Registry

open Switch

variable {ω : Type} (r : Registry ω)

/-- The roster as it is kept. -/
def load : Task ω Roster :=
  outside r.store.load

/-- All profiles. -/
def list : Task ω (List Profile) := do
  return (← r.load).profiles

/-- The profile of an id. -/
def get (id : String) : Task ω Profile := do
  match (← r.load).find? id with
  | some p => return p
  | none => throw (.profileNotFound id)

/-- Which profiles there are and which is active. -/
def status : Task ω Status := do
  let roster ← r.load
  return ⟨roster.active?, roster.profiles⟩

/-- Refuses a draft that must not be stored. -/
def check (d : Draft) : Task ω Unit :=
  match d.check with
  | .ok () => pure ()
  | .error e => throw (.invalidProfile e)

/-- Begins to add a profile at the given time: its id is that of no profile stored so far. -/
def startAdd (milliseconds : Nat) (d : Draft) : Task ω Addition := do
  check d
  let roster ← r.load
  return ⟨Profile.ofDraft (roster.freshId milliseconds) d, roster.profiles⟩

/-- Stores a profile behind those that were found. -/
def finishAdd (a : Addition) : Task ω Profile := do
  outside (r.store.saveProfiles (a.found ++ [a.profile]))
  report (.info ("Added profile " ++ a.profile.name ++ " (" ++ a.profile.id ++ ")"))
  return a.profile

/-- Adds a profile at the given time. -/
def add (milliseconds : Nat) (d : Draft) : Task ω Profile := do
  r.finishAdd (← r.startAdd milliseconds d)

/-- Replaces what may be edited of a profile; if it is active it is applied again. -/
def update (id : String) (d : Draft) : Task ω Profile := do
  check d
  let roster ← r.load
  match roster.find? id with
  | none => throw (.profileNotFound id)
  | some stored =>
    let p := stored.revised id d
    outside (r.store.saveProfiles (Roster.replace id p roster.profiles))
    report (.info ("Updated profile " ++ p.name ++ " (" ++ id ++ ")"))
    if roster.activeId = some id then
      let _ ← Switch.apply r.host p
    return p

/-- Goes back to direct connections and makes no profile active. -/
def deactivate : Task ω Unit := do
  Switch.clear r.host
  outside (r.store.saveActive none)

/-- Removes a profile; if it is active there is none active afterwards. -/
def remove (id : String) : Task ω Profile := do
  let roster ← r.load
  match roster.find? id with
  | none => throw (.profileNotFound id)
  | some p =>
    outside (r.store.saveProfiles (Roster.without id roster.profiles))
    report (.info ("Removed profile " ++ p.name ++ " (" ++ id ++ ")"))
    if roster.activeId = some id then r.deactivate
    return p

/-- Applies a profile and makes it active; an unknown id changes nothing. -/
def activate (id : String) : Task ω (Option Payload) := do
  match (← r.load).find? id with
  | none =>
    report (.warn ("Cannot activate unknown profile " ++ id))
    return none
  | some p =>
    let payload ← Switch.apply r.host p
    outside (r.store.saveActive (some id))
    return some payload

/-- Puts the active profile in force again. -/
def restore : Task ω Restored := do
  let roster ← r.load
  match roster.activeId with
  | none =>
    markInactive
    return .direct
  | some id =>
    match roster.find? id with
    | some p =>
      let _ ← Switch.apply r.host p
      report (.info ("Restored proxy profile " ++ p.name ++ " (" ++ id ++ ")"))
      return .applied id
    | none =>
      report (.warn ("Active profile " ++ id ++ " no longer exists, staying direct"))
      markInactive
      return .dangling id

end Registry

end ProxyProfiles
