import ProxyProfiles.Proofs.EntryShape
/-!
# Which hosts lie in a network

The condition on a network is given as two texts, the network and its mask, which are read when it
is tested. `liesIn_text_iff` says what comes of that for the masks that are written: both texts are
addresses only if the length is at most 32 and the network has four octets, and then the leading
bits are compared. `holds_network_iff` carries this over to the entries of a domain list.
-/

namespace ProxyProfiles.Condition

open Text Network

/-- An address lies in a network and under a netmask if the length of the mask is at most 32 and the
network is an address with the same leading bits. -/
lemma liesIn_text_iff {x : Ipv4} {n : String} {p : Nat} :
    liesIn x n (Netmask.text p) = true ↔
      p ≤ 32 ∧ ∃ y, Ipv4.parse? n = some y ∧ ∀ i < p, x.getMsbD i = y.getMsbD i := by
  rw [liesIn]
  cases hn : Ipv4.parse? n with
  | none => simp
  | some y =>
    rcases Nat.lt_or_ge 32 p with hp | hp
    · have hle : ¬ p ≤ 32 := by omega
      simp [Netmask.parse?_text_of_lt hp, hle]
    · simpa [Netmask.parse?_text hp, hp] using Netmask.and_word_eq_iff hp x y

/-- An entry for a network covers a host if and only if its length is at most 32, its network is an
address of four octets without superfluous zeros, the host has an address, and this address begins
with as many bits of the network as the length says. The length may be written with superfluous
zeros. -/
theorem holds_network_iff {entry n l : String} (h : IsNetwork entry n l)
    (hsize : Decimal.value l.toList < UInt32.size) (host : String)
    (resolve : String → Option Ipv4) :
    (ofEntry entry).holds host resolve = true ↔
      Decimal.value l.toList ≤ 32 ∧ ∃ x y, Ipv4.Spells false y n.toList ∧
        resolve host = some x ∧ ∀ i < Decimal.value l.toList, x.getMsbD i = y.getMsbD i := by
  rw [ofEntry_eq_iff.2 (.network h hsize), holds]
  cases resolve host with
  | none => simp
  | some x =>
    simp only [liesIn_text_iff, Ipv4.parse?_eq_some_iff, Option.some.injEq]
    constructor
    · rintro ⟨hle, y, hy, hbits⟩
      exact ⟨hle, x, y, hy, rfl, hbits⟩
    · rintro ⟨hle, _, y, hy, rfl, hbits⟩
      exact ⟨hle, y, hy, hbits⟩

/-- The entry `192.168.1.77/0024` covers a host with the address `192.168.1.5`, and the entries
`192.168.1.77/33` and `192.168.01.77/24` do not. -/
theorem holds_network_sample :
    let resolve : String → Option Ipv4 := fun _ => some (Ipv4.ofOctets 192 168 1 5)
    (IsNetwork "192.168.1.77/0024" "192.168.1.77" "0024" ∧
      (ofEntry "192.168.1.77/0024").holds "intranet" resolve = true) ∧
    (IsNetwork "192.168.1.77/33" "192.168.1.77" "33" ∧
      ¬ (ofEntry "192.168.1.77/33").holds "intranet" resolve = true) ∧
    (IsNetwork "192.168.01.77/24" "192.168.01.77" "24" ∧
      ¬ (ofEntry "192.168.01.77/24").holds "intranet" resolve = true) := by
  intro resolve
  have hshort : IsNetwork "192.168.1.77/0024" "192.168.1.77" "0024" :=
    ⟨rfl, isDotted_iff.1 (by decide), by decide⟩
  have hlong : IsNetwork "192.168.1.77/33" "192.168.1.77" "33" :=
    ⟨rfl, isDotted_iff.1 (by decide), by decide⟩
  have hzero : IsNetwork "192.168.01.77/24" "192.168.01.77" "24" :=
    ⟨rfl, isDotted_iff.1 (by decide), by decide⟩
  have hspells : Ipv4.Spells false (Ipv4.ofOctets 192 168 1 77) "192.168.1.77".toList :=
    Ipv4.parse?_eq_some_iff.1 (by decide)
  have hbits : ∀ i < 24, (Ipv4.ofOctets 192 168 1 5).getMsbD i =
      (Ipv4.ofOctets 192 168 1 77).getMsbD i := by decide
  refine ⟨⟨hshort, ?_⟩, ⟨hlong, ?_⟩, hzero, ?_⟩
  · exact (holds_network_iff hshort (by decide) "intranet" resolve).2
      ⟨by decide, _, _, hspells, rfl, hbits⟩
  · intro hholds
    exact absurd ((holds_network_iff hlong (by decide) "intranet" resolve).1 hholds).1 (by decide)
  · intro hholds
    obtain ⟨-, x, y, hy, -⟩ := (holds_network_iff hzero (by decide) "intranet" resolve).1 hholds
    have hnone : Ipv4.parse? "192.168.01.77" = none := by decide
    simp [Ipv4.parse?_eq_some_iff.2 hy] at hnone

end ProxyProfiles.Condition
