import ProxyProfiles.Profile.Basic
/-!
# The profiles and the active one

A roster holds the stored profiles in their order and the id of the active one, which need not
be the id of a stored profile. Where two profiles have the same id, the first counts.

New profiles get the time of their making as id: the decimal text of a number of milliseconds,
or of the first number after it that no stored profile has as id.
-/

namespace ProxyProfiles

open Text

/-- The stored profiles and the id of the active one. -/
structure Roster where
  /-- The stored profiles. -/
  profiles : List Profile := []
  /-- The id of the active profile, if one is active. -/
  activeId : Option String := none
deriving DecidableEq, Repr

namespace Roster

/-- The first profile with an id. -/
def find? (r : Roster) (id : String) : Option Profile :=
  r.profiles.find? fun p => p.id = id

/-- The active profile, if it is stored. -/
def active? (r : Roster) : Option Profile :=
  r.activeId.bind r.find?

/-- The first number from `n` on whose text is not taken; of `steps` tries the last is not
checked. -/
def firstFree (taken : String → Bool) : Nat → Nat → Nat
  | 0, n => n
  | steps + 1, n => if taken (Decimal.ofNat n) then firstFree taken steps (n + 1) else n

/-- An id that no stored profile has, for a profile made at the given time. There are fewer ids
to avoid than tries. -/
def freshId (r : Roster) (milliseconds : Nat) : String :=
  Decimal.ofNat <|
    firstFree (fun id => (r.find? id).isSome) r.profiles.length milliseconds

/-- A list with its first profile of an id replaced. -/
def replace (id : String) (new : Profile) : List Profile → List Profile
  | [] => []
  | p :: ps => if p.id = id then new :: ps else p :: replace id new ps

/-- A list without its first profile of an id. -/
def without (id : String) : List Profile → List Profile
  | [] => []
  | p :: ps => if p.id = id then ps else p :: without id ps

end Roster

end ProxyProfiles
