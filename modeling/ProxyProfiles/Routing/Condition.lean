import ProxyProfiles.Network.Ipv4
import ProxyProfiles.Network.Netmask
/-!
# Conditions on the host of a request

Each entry of a domain list stands for one condition. What an entry means is read off its
shape, and of the shapes that fit the first counts:

* `n/k`, with `n` four runs of digits separated by dots and `k` a run of digits of value below
  `2 ^ 32`: the address of the host lies in the network `n` with `k` leading bits;
* four runs of digits separated by dots: the host is this very text;
* `*.d`: the host ends in `.d`, or in `d`;
* anything else: the host ends in this text.

Digits are ASCII digits. A length above 32 is kept, and makes a mask that no address fits.
-/

namespace ProxyProfiles

open Text Network

/-- A condition on the host of a request. -/
inductive Condition where
  /-- The address of the host lies in a network. -/
  | cidr (network mask : String)
  /-- The host is this text. -/
  | literal (host : String)
  /-- The host ends in this domain, with or without a dot in front. -/
  | wildcard (domain : String)
  /-- The host ends in this text. -/
  | domain (suffix : String)
deriving DecidableEq, Repr

namespace Condition

/-- Whether a text consists of four runs of digits with dots between. -/
def isDotted (s : List Char) : Bool :=
  (pieces '.' s).length == 4 && (pieces '.' s).all Decimal.isRun

/-- The network and the length that an entry of the first shape names. -/
def network? (s : List Char) : Option (List Char × Nat) :=
  match pieces '/' s with
  | [n, k] =>
    if isDotted n ∧ Decimal.isRun k ∧ Decimal.value k < UInt32.size then some (n, Decimal.value k)
    else none
  | _ => none

/-- The domain that an entry of the third shape names. -/
def starred? : List Char → Option (List Char)
  | '*' :: '.' :: d => some d
  | _ => none

/-- The condition that an entry of a domain list stands for. -/
def ofEntry (entry : String) : Condition :=
  let s := entry.toList
  match network? s with
  | some (n, k) => cidr (String.ofList n) (Netmask.text k)
  | none =>
    if isDotted s then literal entry
    else match starred? s with
      | some d => wildcard (String.ofList d)
      | none => domain entry

/-- Whether a host ends in a text. -/
def endsIn (host suffix : String) : Bool :=
  suffix.toList.isSuffixOf host.toList

/-- Whether an address lies in a network, both network and mask being given as texts. Nothing
lies in a network whose network or mask is no address. -/
def liesIn (address : Ipv4) (network mask : String) : Bool :=
  match Ipv4.parse? network, Ipv4.parse? mask with
  | some n, some m => address &&& m == n &&& m
  | _, _ => false

/-- Whether a host satisfies a condition, `resolve` giving the address of a host that has
one. Only the condition on a network asks for the address. -/
def holds (c : Condition) (host : String) (resolve : String → Option Ipv4) : Bool :=
  match c with
  | cidr network mask =>
    match resolve host with
    | some address => liesIn address network mask
    | none => false
  | literal h => host == h
  | wildcard d => endsIn host ("." ++ d) || endsIn host d
  | domain d => endsIn host d

/-- A text between double quotes, as it is. -/
def inQuotes (s : String) : String :=
  "\"" ++ s ++ "\""

/-- The expression of a routing script for a condition. -/
def expression : Condition → String
  | cidr network mask =>
    "isInNet(dnsResolve(host), " ++ inQuotes network ++ ", " ++ inQuotes mask ++ ")"
  | literal h => "host === " ++ inQuotes h
  | wildcard d =>
    "dnsDomainIs(host, " ++ inQuotes ("." ++ d) ++ ") || dnsDomainIs(host, " ++ inQuotes d ++ ")"
  | domain d => "dnsDomainIs(host, " ++ inQuotes d ++ ")"

end Condition

end ProxyProfiles
