import ProxyProfiles.Text.Decimal
/-!
# Addresses of four octets

An address is a word of 32 bits, written as four decimal octets with dots between. An octet is
a run of one to three digits of value at most 255; whether a longer octet may begin with a zero
depends on where the address stands, so the reader is told.
-/

namespace ProxyProfiles.Network

/-- An address of four octets, as a word whose highest bits are the first octet. -/
abbrev Ipv4 := BitVec 32

namespace Ipv4

open Text

/-- The address with the given octets. -/
def ofOctets (a b c d : Nat) : Ipv4 :=
  BitVec.ofNat 32 (((a * 256 + b) * 256 + c) * 256 + d)

/-- The value of a run of digits, if the run is an octet. With `zeros`, a run of two or three
digits may begin with a zero. -/
def octet? (zeros : Bool) (run : List Char) : Option Nat :=
  if 1 ≤ run.length ∧ run.length ≤ 3 ∧ Decimal.value run ≤ 255 ∧
      (zeros ∨ run.length = 1 ∨ run.head? ≠ some '0') then
    some (Decimal.value run)
  else none

/-- Reads an octet in front of a text. The run of digits is taken whole. -/
def readOctet (zeros : Bool) (s : List Char) : Option (Nat × List Char) :=
  (octet? zeros (Decimal.split s).1).map (·, (Decimal.split s).2)

/-- What follows the character `c` at the head of a text. -/
def skipChar (c : Char) : List Char → Option (List Char)
  | [] => none
  | d :: s => if d = c then some s else none

/-- Reads an address in front of a text. -/
def read (zeros : Bool) (s : List Char) : Option (Ipv4 × List Char) := do
  let (a, s) ← readOctet zeros s
  let (b, s) ← readOctet zeros (← skipChar '.' s)
  let (c, s) ← readOctet zeros (← skipChar '.' s)
  let (d, s) ← readOctet zeros (← skipChar '.' s)
  return (ofOctets a b c d, s)

/-- The address that a string spells: four octets without superfluous zeros and nothing
else. -/
def parse? (s : String) : Option Ipv4 :=
  match read false s.toList with
  | some (a, []) => some a
  | _ => none

end Ipv4

end ProxyProfiles.Network
