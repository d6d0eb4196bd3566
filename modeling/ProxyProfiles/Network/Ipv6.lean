import ProxyProfiles.Network.Ipv4
import ProxyProfiles.Text.Hexadecimal
/-!
# Addresses of eight groups

An address is a word of 128 bits, written as eight groups of one to four hexadecimal digits
with colons between. One run of zero groups may be left out, which shows as two colons in a row,
and the last two groups may be written as four decimal octets.

Two spellings are in use. A *host* address is strict: octets have no superfluous zeros and the
two colons stand for at least one group. The address of a *block* is lax in both respects.
-/

namespace ProxyProfiles.Network

/-- An address of eight groups, as a word whose highest bits are the first group. -/
abbrev Ipv6 := BitVec 128

/-- How freely an address may be written. -/
structure Spelling where
  /-- A decimal octet may begin with superfluous zeros. -/
  zeros : Bool
  /-- Two colons may stand for no group at all. -/
  emptyGap : Bool
deriving DecidableEq, Repr

/-- The spelling of the address of a host. -/
def Spelling.host : Spelling := ⟨false, false⟩

/-- The spelling of the address of a block. -/
def Spelling.block : Spelling := ⟨true, true⟩

namespace Ipv6

open Text

/-- The address with the given groups, highest first. -/
def ofGroups (gs : List Nat) : Ipv6 :=
  BitVec.ofNat 128 (gs.foldl (fun n g => 65536 * n + g) 0)

/-- Reads a group in front of a text. The run of digits is taken whole. -/
def readGroup (s : List Char) : Option (Nat × List Char) :=
  let run := s.takeWhile Hexadecimal.isDigit
  if 1 ≤ run.length ∧ run.length ≤ 4 then
    (Hexadecimal.value? run).map (·, s.dropWhile Hexadecimal.isDigit)
  else none

/-- What a list of groups was read as. -/
structure Groups where
  /-- The groups, those of a decimal tail included. -/
  groups : List Nat
  /-- Whether the list ended in four decimal octets. -/
  decimalTail : Bool
  /-- The text behind the list. -/
  rest : List Char

/-- The two groups that an address of four octets fills. -/
def tailGroups (a : Ipv4) : List Nat :=
  [a.toNat / 65536, a.toNat % 65536]

/-- Reads groups in front of a text until `room` are read or no further one follows. Every
group but the first has a colon in front of it, and four decimal octets may take the place of
two groups. -/
def readGroups (sp : Spelling) : Nat → Bool → List Char → Groups
  | 0, _, s => ⟨[], false, s⟩
  | room + 1, first, s =>
    match if first then some s else Ipv4.skipChar ':' s with
    | none => ⟨[], false, s⟩
    | some t =>
      match if room = 0 then none else Ipv4.read sp.zeros t with
      | some (a, r) => ⟨tailGroups a, true, r⟩
      | none =>
        match readGroup t with
        | none => ⟨[], false, s⟩
        | some (g, r) =>
          let more := readGroups sp room false r
          ⟨g :: more.groups, more.decimalTail, more.rest⟩

/-- Reads an address in front of a text. -/
def read (sp : Spelling) (s : List Char) : Option (Ipv6 × List Char) := do
  let head := readGroups sp 8 true s
  if head.groups.length = 8 then
    return (ofGroups head.groups, head.rest)
  if head.decimalTail then none
  let t ← Ipv4.skipChar ':' (← Ipv4.skipChar ':' head.rest)
  let left := 8 - head.groups.length
  let tail := readGroups sp (if sp.emptyGap then left else left - 1) true t
  let gap := List.replicate (left - tail.groups.length) 0
  return (ofGroups (head.groups ++ gap ++ tail.groups), tail.rest)

end Ipv6

end ProxyProfiles.Network
