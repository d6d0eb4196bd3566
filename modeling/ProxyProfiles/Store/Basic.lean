import ProxyProfiles.Error
import ProxyProfiles.Log
import ProxyProfiles.Roster.Basic
/-!
# Stores

A store keeps a roster. Its list of profiles and its active id are saved one at a time, and
saving one leaves the other as it is.

A store works on a *world*, the part of everything outside the program that it can see. An
operation gives an *outcome*: its result, the world as it is afterwards, and what it reports.
Nothing is said here about when an operation fails, or about what it then leaves behind.
-/

namespace ProxyProfiles

/-- What an operation on a world gives. -/
structure Outcome (ω α : Type) where
  /-- What it returns, or why it fails. -/
  result : Except Error α
  /-- The world afterwards. -/
  world : ω
  /-- What it reports. -/
  log : List Record := []

/-- The outcome for a larger world of an operation on a part of it. -/
def Outcome.within {σ ω α : Type} (put : σ → ω → ω) (w : ω) (o : Outcome σ α) : Outcome ω α :=
  ⟨o.result, put o.world w, o.log⟩

/-- A place where a roster is kept. -/
structure Store (ω : Type) where
  /-- The roster that is kept. -/
  load : ω → Outcome ω Roster
  /-- Keeps a list of profiles instead of the one kept so far. -/
  saveProfiles : List Profile → ω → Outcome ω Unit
  /-- Keeps an active id, or none, instead of the one kept so far. -/
  saveActive : Option String → ω → Outcome ω Unit

namespace Store

/-- A store on a part of a larger world. -/
def within {σ ω : Type} (get : ω → σ) (put : σ → ω → ω) (s : Store σ) : Store ω where
  load w := (s.load (get w)).within put w
  saveProfiles ps w := (s.saveProfiles ps (get w)).within put w
  saveActive id w := (s.saveActive id (get w)).within put w

/-- The store that keeps its roster in memory. Its world is the roster, and it never fails. -/
def memory : Store Roster where
  load r := ⟨.ok r, r, []⟩
  saveProfiles ps r := ⟨.ok (), { r with profiles := ps }, []⟩
  saveActive id r := ⟨.ok (), { r with activeId := id }, []⟩

end Store

end ProxyProfiles
