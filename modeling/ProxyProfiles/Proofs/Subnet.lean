import ProxyProfiles.Proofs.Bypass
import ProxyProfiles.Proofs.LetterCase
import ProxyProfiles.Proofs.NetworkMembership
/-!
# Network entries in the two policy modes

An entry such as `172.16.0.0/12` is meant for the hosts whose addresses begin with as many bits of
the written address as it says. A whitelist comes to this by way of a netmask, which it writes as a
text and reads back; a blacklist compares the leading bits. `network_entry_covers_iff` says that
both cover exactly the hosts that are meant.
-/

namespace ProxyProfiles

open Text Network

/-- The entry for a network: four octets, and behind a slash the text of a number of bits. -/
def networkEntry (a b c d : Nat) (length : String) : String :=
  joined "." ([a, b, c, d].map Decimal.ofNat) ++ "/" ++ length

/-- How a number of leading bits is written: with one digit or two, and it is at most 32. -/
structure WritesLength (text : String) (p : Nat) : Prop where
  run : Decimal.isRun text.toList = true
  short : text.toList.length ≤ 2
  value : Decimal.value text.toList = p
  le : p ≤ 32

namespace WritesLength

variable {length : String} {p : Nat}

lemma isDigit (hl : WritesLength length p) : ∀ x ∈ length.toList, x.isDigit = true :=
  Decimal.isDigit_of_isRun hl.run

lemma isLength (hl : WritesLength length p) : Block.IsLength 2 32 length.toList p :=
  ⟨hl.run, hl.short, hl.value, hl.le⟩

end WritesLength

section Entry

variable {a b c d p : Nat} {length : String}

lemma toList_networkEntry :
    (networkEntry a b c d length).toList = dotted [a, b, c, d] ++ '/' :: length.toList := by
  simp [networkEntry, joined, dotted, join, Decimal.ofNat]

/-- An entry for a network has no letters. -/
lemma isAlpha_of_mem_networkEntry (hl : WritesLength length p) :
    ∀ x ∈ (networkEntry a b c d length).toList, x.isAlpha = false := by
  intro x hx
  rw [toList_networkEntry, List.mem_append, List.mem_cons] at hx
  rcases hx with hx | rfl | hx
  · rcases mem_dotted hx with rfl | hx
    · rfl
    · exact isAlpha_of_isDigit hx
  · rfl
  · exact isAlpha_of_isDigit (hl.isDigit x hx)

/-! ## The whitelist -/

namespace Condition

lemma isNetwork_networkEntry (hl : WritesLength length p) :
    IsNetwork (networkEntry a b c d length) (String.ofList (dotted [a, b, c, d])) length where
  eq := String.toList_injective (by simp [toList_networkEntry])
  quad := by
    refine ⟨_, _, _, _, fun run hrun => ?_, String.toList_ofList⟩
    obtain ⟨n, -, rfl⟩ : ∃ n ∈ [a, b, c, d], Decimal.digits n = run := by simpa [eq_comm] using hrun
    exact Decimal.isRun_digits n
  run := hl.run

lemma ofEntry_networkEntry (hl : WritesLength length p) :
    ofEntry (networkEntry a b c d length) =
      .cidr (String.ofList (dotted [a, b, c, d])) (Netmask.text p) := by
  have hsize : Decimal.value length.toList < UInt32.size :=
    hl.value ▸ Nat.lt_of_le_of_lt hl.le (by decide)
  rw [ofEntry_eq_iff.2 (.network (isNetwork_networkEntry hl) hsize), hl.value]

/-- A network given as texts holds the addresses with its leading bits. -/
lemma liesIn_iff (ho : ∀ o ∈ [a, b, c, d], o ≤ 255) (hp : p ≤ 32) (x : Ipv4) :
    liesIn x (String.ofList (dotted [a, b, c, d])) (Netmask.text p) = true ↔
      ∀ i < p, x.getMsbD i = (Ipv4.ofOctets a b c d).getMsbD i := by
  simp [liesIn_text_iff, Ipv4.parse?_dotted ho, hp]

end Condition

/-! ## The blacklist -/

lemma parse?_networkEntry (ho : ∀ o ∈ [a, b, c, d], o ≤ 255) (hl : WritesLength length p) :
    Block.parse? (networkEntry a b c d length) = some (.v4 (Ipv4.ofOctets a b c d) p) := by
  rw [Block.parse?_eq_some_iff, toList_networkEntry]
  exact .v4 (Ipv4.spells_dotted ho) hl.isLength

/-- An entry for a network is no address. -/
lemma parse?_networkEntry_eq_none (ho : ∀ o ∈ [a, b, c, d], o ≤ 255) :
    Ipv4.parse? (networkEntry a b c d length) = none := by
  rw [Ipv4.parse?, toList_networkEntry,
    Ipv4.read_append (Ipv4.spells_dotted ho) (noDigitHead_cons (by decide) length.toList)]

lemma Address.parse?_of_ipv4 {host : String} {x : Ipv4} (h : Ipv4.parse? host = some x) :
    Address.parse? host = some (.v4 x) :=
  Address.parse?_eq_some_iff.2 (.v4 (Ipv4.parse?_eq_some_iff.1 h))

/-- An entry for a network begins with a digit. -/
lemma head?_networkEntry_ne {y : Char} (hy : y.isDigit = false) :
    (networkEntry a b c d length).toList.head? ≠ some y := by
  have hhead : (networkEntry a b c d length).toList.head? = (Decimal.digits a).head? := by
    rw [toList_networkEntry, dotted]
    simp only [List.map_cons, join, List.append_assoc]
    rw [List.head?_append, List.head?_eq_some_head (Decimal.digits_ne_nil a), Option.some_or]
  rw [hhead]
  intro hmem
  rw [Decimal.isDigit_of_mem_digits (List.mem_of_mem_head? hmem)] at hy
  contradiction

lemma bypassCovers_networkEntry (ho : ∀ o ∈ [a, b, c, d], o ≤ 255) (hl : WritesLength length p)
    {host : String} {x : Ipv4} (hhost : Ipv4.parse? host = some x) :
    bypassCovers host (networkEntry a b c d length) = true ↔
      ∀ i < p, x.getMsbD i = (Ipv4.ofOctets a b c d).getMsbD i := by
  have hcase : lowerCase (networkEntry a b c d length) ≠ lowerCase host := by
    intro heq
    have hsame := eq_of_lowerCase_eq (isAlpha_of_mem_networkEntry hl) heq.symm
    rw [hsame, parse?_networkEntry_eq_none ho] at hhost
    simp at hhost
  rw [bypassCovers_iff, covers_iff_of_neither (head?_networkEntry_ne (by decide))
    (head?_networkEntry_ne (by decide)) hcase, Address.parse?_of_ipv4 hhost,
    parse?_networkEntry ho hl]
  simpa [Block.contains] using agree_iff hl.le x (Ipv4.ofOctets a b c d)

end Entry

/-! ## Both -/

/-- An entry for a network means the same in both modes. The condition that a whitelist makes of it
holds for a host which is an address if and only if a blacklist with this entry alone bypasses the
host, and that is so if and only if the host has the leading bits of the network. -/
theorem network_entry_covers_iff {a b c d p : Nat} {length host : String} {x : Ipv4}
    {resolve : String → Option Ipv4} {t : RuleTable} (ho : ∀ o ∈ [a, b, c, d], o ≤ 255)
    (hl : WritesLength length p) (hhost : Ipv4.parse? host = some x)
    (hresolve : resolve host = some x) (ht : t.bypassList = [networkEntry a b c d length]) :
    ((Condition.ofEntry (networkEntry a b c d length)).holds host resolve = true ↔
      t.isBypassed host = true) ∧
    (t.isBypassed host = true ↔ ∀ i < p, x.getMsbD i = (Ipv4.ofOctets a b c d).getMsbD i) := by
  have hblack : t.isBypassed host = true ↔
      ∀ i < p, x.getMsbD i = (Ipv4.ofOctets a b c d).getMsbD i := by
    rw [← bypassCovers_networkEntry ho hl hhost, RuleTable.isBypassed, ht]
    simp
  have hwhite : (Condition.ofEntry (networkEntry a b c d length)).holds host resolve = true ↔
      ∀ i < p, x.getMsbD i = (Ipv4.ofOctets a b c d).getMsbD i := by
    rw [← Condition.liesIn_iff ho hl.le x, Condition.ofEntry_networkEntry hl, Condition.holds]
    simp only [hresolve]
  exact ⟨hwhite.trans hblack.symm, hblack⟩

/-- The network `172.16.5.9/12` covers `172.31.0.1` and not `172.32.0.1`. -/
theorem network_entry_covers_sample :
    let entry := networkEntry 172 16 5 9 "12"
    let t : RuleTable := { bypassList := [entry] }
    entry = "172.16.5.9/12" ∧
    ((Condition.ofEntry entry).holds "172.31.0.1" Ipv4.parse? = true ∧
      t.isBypassed "172.31.0.1" = true) ∧
    ¬ (Condition.ofEntry entry).holds "172.32.0.1" Ipv4.parse? = true ∧
      ¬ t.isBypassed "172.32.0.1" = true := by
  intro entry t
  have ho : ∀ o ∈ [172, 16, 5, 9], o ≤ 255 := by decide
  have hl : WritesLength "12" 12 := ⟨by decide, by decide, by decide, by decide⟩
  have hin : Ipv4.parse? "172.31.0.1" = some (Ipv4.ofOctets 172 31 0 1) := by decide
  have hout : Ipv4.parse? "172.32.0.1" = some (Ipv4.ofOctets 172 32 0 1) := by decide
  obtain ⟨hsame, hiff⟩ := network_entry_covers_iff ho hl hin hin (t := t) rfl
  obtain ⟨hsame', hiff'⟩ := network_entry_covers_iff ho hl hout hout (t := t) rfl
  have hbits : ∀ i < 12, (Ipv4.ofOctets 172 31 0 1).getMsbD i =
      (Ipv4.ofOctets 172 16 5 9).getMsbD i := by decide
  have hbits' : ¬ ∀ i < 12, (Ipv4.ofOctets 172 32 0 1).getMsbD i =
      (Ipv4.ofOctets 172 16 5 9).getMsbD i := by decide
  refine ⟨by decide, ⟨hsame.2 (hiff.2 hbits), hiff.2 hbits⟩, ?_, ?_⟩
  · exact fun h => hbits' (hiff'.1 (hsame'.1 h))
  · exact fun h => hbits' (hiff'.1 h)

end ProxyProfiles
