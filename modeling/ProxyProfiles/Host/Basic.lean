import ProxyProfiles.Routing.Payload
import ProxyProfiles.Store.Basic
/-!
# Hosts

A host is the network layer that enforces a payload. It is asked to apply one or to go back to
direct connections, and may refuse either. Like a store it works on a world.
-/

namespace ProxyProfiles

/-- A network layer. -/
structure Host (ω : Type) where
  /-- Enforces a payload instead of what is in force. -/
  apply : Payload → ω → Outcome ω Unit
  /-- Goes back to direct connections. -/
  clear : ω → Outcome ω Unit

/-- A host on a part of a larger world. -/
def Host.within {σ ω : Type} (get : ω → σ) (put : σ → ω → ω) (h : Host σ) : Host ω where
  apply p w := (h.apply p (get w)).within put w
  clear w := (h.clear (get w)).within put w

/-- What a host was asked. -/
inductive HostCall where
  /-- To enforce a payload. -/
  | apply (p : Payload)
  /-- To go back to direct connections. -/
  | clear
deriving DecidableEq, Repr

/-- The calls that a host has accepted, oldest first, and what it refuses from now on. -/
structure Recording where
  /-- The calls accepted so far. -/
  calls : List HostCall := []
  /-- Whether payloads are refused. -/
  rejectApply : Bool := false
  /-- Whether going back is refused. -/
  rejectClear : Bool := false
deriving DecidableEq, Repr

namespace Recording

/-- The payload that was accepted last. -/
def lastApplied? (r : Recording) : Option Payload :=
  r.calls.reverse.findSome? fun
    | .apply p => some p
    | .clear => none

/-- A recording with one more call. -/
def push (r : Recording) (c : HostCall) : Recording :=
  { r with calls := r.calls ++ [c] }

end Recording

/-- The host that only records what it is asked. -/
def Host.recording : Host Recording where
  apply p r := if r.rejectApply then ⟨.error (.hostApply .refused), r, []⟩
    else ⟨.ok (), r.push (.apply p), []⟩
  clear r := if r.rejectClear then ⟨.error (.hostClear .refused), r, []⟩
    else ⟨.ok (), r.push .clear, []⟩

end ProxyProfiles
