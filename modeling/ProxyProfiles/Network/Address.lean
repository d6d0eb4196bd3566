import ProxyProfiles.Network.Ipv6
/-!
# Addresses of either family, and blocks of them

A block is written as an address, a slash and a length, such as `10.0.0.0/8`; it holds the
addresses of its family whose first bits, as many as the length says, are those of the written
address. The remaining bits of the written address do not matter.
-/

namespace ProxyProfiles.Network

open Text

/-- Whether two words have the same `p` highest bits. -/
def agree {w : Nat} (p : Nat) (a b : BitVec w) : Bool :=
  a >>> (w - p) == b >>> (w - p)

/-- An address of either family. -/
inductive Address where
  /-- An address of four octets. -/
  | v4 (a : Ipv4)
  /-- An address of eight groups. -/
  | v6 (a : Ipv6)
deriving DecidableEq, Repr

/-- The address that a host text spells, and nothing else. -/
def Address.parse? (s : String) : Option Address :=
  match Ipv4.read false s.toList with
  | some (a, []) => some (.v4 a)
  | some _ => none
  | none =>
    match Ipv6.read .host s.toList with
    | some (a, []) => some (.v6 a)
    | _ => none

/-- The addresses of one family that share their first bits. -/
inductive Block where
  /-- The first `length` of 32 bits are those of `a`. -/
  | v4 (a : Ipv4) (length : Nat)
  /-- The first `length` of 128 bits are those of `a`. -/
  | v6 (a : Ipv6) (length : Nat)
deriving DecidableEq, Repr

namespace Block

/-- The number of leading bits behind the slash: all that is left is a run of at most `width`
digits of value at most `top`. -/
def length? (width top : Nat) (s : List Char) : Option Nat :=
  if Decimal.isRun s ∧ s.length ≤ width ∧ Decimal.value s ≤ top then some (Decimal.value s)
  else none

/-- The block that a text spells, and nothing else. -/
def parse? (s : String) : Option Block :=
  match Ipv4.read Spelling.block.zeros s.toList with
  | some (a, r) => do
    let p ← length? 2 32 (← Ipv4.skipChar '/' r)
    return .v4 a p
  | none => do
    let (a, r) ← Ipv6.read .block s.toList
    let p ← length? 3 128 (← Ipv4.skipChar '/' r)
    return .v6 a p

/-- Whether an address lies in a block. Addresses of the other family never do. -/
def contains : Block → Address → Bool
  | v4 n p, .v4 a => agree p a n
  | v6 n p, .v6 a => agree p a n
  | _, _ => false

end Block

end ProxyProfiles.Network
