import ProxyProfiles.Text.Decimal
import ProxyProfiles.Text.Split
/-!
# Netmasks in dotted decimal

A netmask of length `p` has its first `p` bits set and all others clear. The bits are counted
through all its octets, from the highest bit of the first one. There are at least four octets and
as many as `p` bits need; a length above 32 therefore gives more than four octets instead of being
cut off.
-/

namespace ProxyProfiles.Network.Netmask

open Text

/-- Eight bits of a mask. -/
abbrev Octet := BitVec 8

/-- The number of octets of a mask of length `p`. -/
def octetCount (p : Nat) : Nat :=
  max 4 ((p + 7) / 8)

/-- The octets with bit `i` set. -/
def setBit (os : List Octet) (i : Nat) : List Octet :=
  os.modify (i / 8) fun o => o ||| 0x80#8 >>> (i % 8)

/-- The octets of a mask of length `p`, highest first: its bits are set one after another. -/
def octets (p : Nat) : List Octet :=
  (List.range p).foldl setBit (List.replicate (octetCount p) 0#8)

/-- A mask of length `p` in dotted decimal. -/
def text (p : Nat) : String :=
  String.ofList (join ['.'] ((octets p).map fun o => Decimal.digits o.toNat))

@[simp] theorem length_setBit (os : List Octet) (i : Nat) : (setBit os i).length = os.length := by
  simp [setBit]

end ProxyProfiles.Network.Netmask
