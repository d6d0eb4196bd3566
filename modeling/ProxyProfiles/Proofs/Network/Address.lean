import ProxyProfiles.Network.Address
import ProxyProfiles.Proofs.Network.Ipv6
import ProxyProfiles.Proofs.Network.Netmask
/-!
# Which texts are addresses and blocks

A text is taken for an address exactly if it spells one of either family, strictly, and for a block
exactly if it spells an address of either family, laxly, with a slash and a length behind it
(`Address.parse?_eq_some_iff`, `Block.parse?_eq_some_iff`). A block holds the addresses of its
family that have its leading bits (`Block.contains_iff`).
-/

namespace ProxyProfiles.Network

open Text

/-! ## Addresses -/

/-- The texts that an address of either family may be written as. -/
inductive Address.Spells : Address → List Char → Prop
  | v4 {x : Ipv4} {t : List Char} (h : Ipv4.Spells Spelling.host.zeros x t) : Spells (.v4 x) t
  | v6 {y : Ipv6} {t : List Char} (h : Ipv6.Spells .host y t) : Spells (.v6 y) t

lemma Ipv6.ends_nil : Ipv6.Ends [] where
  digit := by simp [Ipv6.NoHexHead]
  dot := by simp
  colon := by simp

lemma Address.parse?_eq_some_iff {s : String} {a : Address} :
    Address.parse? s = some a ↔ Address.Spells a s.toList := by
  constructor
  · intro h
    unfold Address.parse? at h
    split at h
    · next x hread =>
      obtain rfl := Option.some.inj h
      obtain ⟨t, ht, hs, -⟩ := Ipv4.spells_of_read hread
      rw [hs, List.append_nil]
      exact .v4 ht
    · exact absurd h (by simp)
    · split at h
      · next y hread =>
        obtain rfl := Option.some.inj h
        obtain ⟨t, ht, hs⟩ := Ipv6.spells_of_read hread
        rw [hs, List.append_nil]
        exact .v6 ht
      · exact absurd h (by simp)
  · intro h
    generalize hs : s.toList = t at h
    unfold Address.parse?
    rw [hs]
    cases h with
    | @v4 x t h =>
      have hread := Ipv4.read_append h noDigitHead_nil
      rw [List.append_nil] at hread
      simp [show Ipv4.read false t = _ from hread]
    | @v6 y t h =>
      have hread := Ipv6.read_append h Ipv6.ends_nil
      rw [List.append_nil] at hread
      simp [show Ipv4.read false t = _ from Ipv6.readIpv4_of_read hread, hread]

/-! ## Blocks -/

namespace Block

/-- A run of at most `width` digits whose value is at most `top`. -/
structure IsLength (width top : Nat) (l : List Char) (p : Nat) : Prop where
  run : Decimal.isRun l = true
  short : l.length ≤ width
  value : Decimal.value l = p
  le : p ≤ top

/-- The texts that a block of either family may be written as. -/
inductive Spells : Block → List Char → Prop
  | v4 {x : Ipv4} {p : Nat} {t l : List Char} (h : Ipv4.Spells Spelling.block.zeros x t)
      (hl : IsLength 2 32 l p) : Spells (.v4 x p) (t ++ '/' :: l)
  | v6 {y : Ipv6} {p : Nat} {t l : List Char} (h : Ipv6.Spells .block y t)
      (hl : IsLength 3 128 l p) : Spells (.v6 y p) (t ++ '/' :: l)

/-- An address of the family of a block that has its leading bits. -/
def Holds : Block → Address → Prop
  | v4 n p, .v4 x => ∀ i < p, x.getMsbD i = n.getMsbD i
  | v6 n p, .v6 y => ∀ i < p, y.getMsbD i = n.getMsbD i
  | _, _ => False

lemma length?_eq_some_iff {width top p : Nat} {l : List Char} :
    length? width top l = some p ↔ IsLength width top l p := by
  rw [length?]
  split
  · next h =>
    obtain ⟨hrun, hshort, hle⟩ := h
    rw [Option.some.injEq]
    constructor
    · rintro rfl
      exact ⟨hrun, hshort, rfl, hle⟩
    · exact fun h => h.value
  · next h =>
    constructor
    · simp
    · rintro ⟨hrun, hshort, rfl, hle⟩
      exact absurd ⟨hrun, hshort, hle⟩ h

lemma ends_slash (l : List Char) : Ipv6.Ends ('/' :: l) where
  digit := Ipv6.noHexHead_cons (by decide) l
  dot := by simp
  colon := by simp

lemma parse?_eq_some_iff {s : String} {b : Block} :
    Block.parse? s = some b ↔ Spells b s.toList := by
  constructor
  · intro h
    unfold Block.parse? at h
    split at h
    · next x r hread =>
      simp only [Option.bind_eq_bind, Option.bind_eq_some_iff, Ipv4.skipChar_eq_some_iff,
        length?_eq_some_iff, Option.pure_def, Option.some.injEq] at h
      obtain ⟨l, rfl, p, hl, rfl⟩ := h
      obtain ⟨t, ht, hs, -⟩ := Ipv4.spells_of_read hread
      rw [hs]
      exact .v4 ht hl
    · simp only [Option.bind_eq_bind, Option.bind_eq_some_iff, Ipv4.skipChar_eq_some_iff,
        length?_eq_some_iff, Option.pure_def, Option.some.injEq, Prod.exists] at h
      obtain ⟨y, r, hread, l, rfl, p, hl, rfl⟩ := h
      obtain ⟨t, ht, hs⟩ := Ipv6.spells_of_read hread
      rw [hs]
      exact .v6 ht hl
  · intro h
    generalize hs : s.toList = t at h
    unfold Block.parse?
    rw [hs]
    cases h with
    | @v4 x p t l h hl =>
      rw [Ipv4.read_append h (noDigitHead_cons (by decide) l)]
      simp [length?_eq_some_iff.2 hl]
    | @v6 y p t l h hl =>
      have hread := Ipv6.read_append h (ends_slash l)
      rw [show Ipv4.read Spelling.block.zeros _ = _ from Ipv6.readIpv4_of_read hread, hread]
      simp [length?_eq_some_iff.2 hl]

/-- A block that is spelt holds the addresses of its family with its leading bits. -/
lemma contains_iff {b : Block} {t : List Char} (h : Spells b t) (a : Address) :
    b.contains a = true ↔ b.Holds a := by
  cases h with
  | v4 h hl =>
    cases a with
    | v4 x => exact agree_iff hl.le _ _
    | v6 y => simp [contains, Holds]
  | v6 h hl =>
    cases a with
    | v4 x => simp [contains, Holds]
    | v6 y => exact agree_iff hl.le _ _

end Block

end ProxyProfiles.Network
