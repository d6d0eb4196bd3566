import ProxyProfiles.Badge
import ProxyProfiles.Log
import ProxyProfiles.Profile.Basic
/-!
# Sessions

A session is what is remembered while the program runs and lost when it ends: the credentials
for the proxy in force and the badge. A proxy that asks for credentials is answered from the
session; a host that is no proxy never is.
-/

namespace ProxyProfiles

/-- What is remembered while the program runs. -/
structure Session where
  /-- The credentials for the proxy in force. -/
  credentials : Option Credentials := none
  /-- The badge. -/
  badge : Badge := .inactive
deriving DecidableEq, Repr

/-- A demand for credentials. -/
structure Challenge where
  /-- Whether it comes from a proxy. -/
  isProxy : Bool
  /-- Where it comes from. -/
  host : String
  /-- What the credentials are for, if it is said. -/
  realm : Option String
deriving DecidableEq, Repr

namespace Session

/-- The credentials with which a challenge is answered; without any it is declined. -/
def answer (s : Session) (c : Challenge) : Option Credentials :=
  if c.isProxy then s.credentials else none

/-- What is reported when a challenge is answered. -/
def answerLog (s : Session) (c : Challenge) : List Record :=
  if (s.answer c).isSome then
    [.debug ("Answering proxy challenge from " ++ c.host ++ " (realm " ++ c.realm.getD "-" ++ ")")]
  else []

end Session

end ProxyProfiles
