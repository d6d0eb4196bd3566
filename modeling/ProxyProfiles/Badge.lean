import ProxyProfiles.Profile.Protocol
/-!
# The badge

Two letters on a coloured ground tell the user which policy is in force; without one the badge
is blank.
-/

namespace ProxyProfiles

/-- The sign that shows which policy is in force. -/
inductive Badge where
  /-- No policy is in force. -/
  | inactive
  /-- A policy of this mode is in force. -/
  | active (mode : PolicyMode)
deriving DecidableEq, Repr

namespace Badge

/-- The letters of a badge. -/
def text : Badge → String
  | inactive => ""
  | active m => m.label

/-- The ground of a badge, if it is not blank. -/
def color : Badge → Option String
  | inactive => none
  | active .whitelist => some "#805ad5"
  | active .blacklist => some "#48bb78"

/-- A badge in words. -/
def description (b : Badge) : String :=
  match b.color with
  | some c => b.text ++ " (" ++ c ++ ")"
  | none => "inactive"

end Badge

end ProxyProfiles
