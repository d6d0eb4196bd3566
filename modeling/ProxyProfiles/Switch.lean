import ProxyProfiles.Host.Basic
import ProxyProfiles.Session
/-!
# Switching between profiles

To apply a profile, its credentials are put into the session, its payload is submitted to the
host, and when the host accepts it the badge shows its policy. When the host refuses, the
credentials that the session held before are put back and the badge stays.

Applying is done in two steps, `start` up to the submission and `finish` from the answer of the
host on, since several profiles may be on their way to the host at once. What is put back after
a refusal is what the session held when that very profile was started.
-/

namespace ProxyProfiles

namespace Switch

/-- The world, the session, and what has been shown and reported, oldest first. -/
structure State (ω : Type) where
  /-- Everything outside the program. -/
  world : ω
  /-- What is remembered. -/
  session : Session := {}
  /-- The badges shown so far. -/
  shown : List Badge := []
  /-- What has been reported so far. -/
  log : List Record := []

end Switch

/-- A sequence of steps that may end with an error. The steps before the error stay done. -/
abbrev Task (ω α : Type) := ExceptT Error (StateM (Switch.State ω)) α

namespace Switch

variable {ω α : Type}

/-- Reports something. -/
def report (r : Record) : Task ω Unit :=
  modify fun s => { s with log := s.log ++ [r] }

/-- Does something outside the program. -/
def outside (op : ω → Outcome ω α) : Task ω α := fun s =>
  let o := op s.world
  (o.result, { s with world := o.world, log := s.log ++ o.log })

/-- Does something and gives its result even if that is an error. -/
def attempt (t : Task ω α) : Task ω (Except Error α) := fun s =>
  let (result, s') := t s
  (.ok result, s')

/-- Puts credentials into the session and gives those it held. -/
def replaceCredentials (c : Option Credentials) : Task ω (Option Credentials) := fun s =>
  (.ok s.session.credentials, { s with session := { s.session with credentials := c } })

/-- Puts a badge into the session and shows it. -/
def display (b : Badge) : Task ω Unit := do
  modify fun s => { s with session := { s.session with badge := b }, shown := s.shown ++ [b] }
  report (.info ("Badge: " ++ b.description))

/-- A profile on its way to the host. -/
structure Pending where
  /-- The profile. -/
  profile : Profile
  /-- What is submitted for it. -/
  payload : Payload
  /-- The credentials that the session held before. -/
  previous : Option Credentials
deriving DecidableEq, Repr

/-- Begins to apply a profile: its credentials are in the session when it is submitted. -/
def start (p : Profile) : Task ω Pending := do
  let previous ← replaceCredentials p.credentials
  return ⟨p, p.compile, previous⟩

/-- What is reported when a profile is in force. -/
def appliedText (p : Profile) : String :=
  "Proxy set: " ++ p.protocol.scheme ++ "://" ++ p.endpoint ++ " [" ++ p.policyMode.name ++ "]"

/-- Submits a profile that was started, and goes on as the host answers. -/
def finish (host : Host ω) (q : Pending) : Task ω Payload := do
  match ← attempt (outside (host.apply q.payload)) with
  | .error e =>
    report (.warn ("Proxy set error for " ++ q.profile.name ++ ": " ++ e.message))
    let _ ← replaceCredentials q.previous
    throw e
  | .ok () =>
    report (.info (appliedText q.profile))
    display (.active q.profile.policyMode)
    return q.payload

/-- Applies a profile. -/
def apply (host : Host ω) (p : Profile) : Task ω Payload := do
  finish host (← start p)

/-- Goes back to direct connections. A refusal leaves the session as it is. -/
def clear (host : Host ω) : Task ω Unit := do
  match ← attempt (outside host.clear) with
  | .error e =>
    report (.warn ("Proxy clear error: " ++ e.message))
    throw e
  | .ok () =>
    report (.info "Proxy cleared, direct connection")
    let _ ← replaceCredentials none
    display .inactive

/-- Blanks the badge without asking the host. -/
def markInactive : Task ω Unit :=
  display .inactive

/-- Answers a challenge from the session. -/
def respond (c : Challenge) : Task ω (Option Credentials) := fun s =>
  (.ok (s.session.answer c), { s with log := s.log ++ s.session.answerLog c })

end Switch

end ProxyProfiles
