import ProxyProfiles.Network.Ipv4
import ProxyProfiles.Text.Split
import Mathlib.Tactic.Lemma
/-!
# Which texts are addresses of four octets

`Ipv4.Spells` says in which ways an address may be written: as four octets (`IsOctet`) with dots
between them. The reader finds an address in front of a text if one is spelt there and no digit
follows (`read_append`), and in no other case (`spells_of_read`). So a whole text is taken for an
address exactly if it spells one (`parse?_eq_some_iff`). Octets without superfluous zeros are among
the spellings (`spells_dotted`).
-/

namespace ProxyProfiles.Network

open Text

/-- Octets in dotted decimal. -/
def dotted (octets : List Nat) : List Char :=
  join ['.'] (octets.map Decimal.digits)

/-- A text that no digit begins. -/
def NoDigitHead (rest : List Char) : Prop :=
  ∀ c ∈ rest.head?, c.isDigit = false

lemma noDigitHead_nil : NoDigitHead [] := by simp [NoDigitHead]

lemma noDigitHead_cons {c : Char} (hc : c.isDigit = false) (s : List Char) :
    NoDigitHead (c :: s) := by
  simpa [NoDigitHead] using hc

section Dotted

variable {octets : List Nat} {c : Char}

/-- Octets in dotted decimal are written with digits and dots. -/
lemma mem_dotted (h : c ∈ dotted octets) : c = '.' ∨ c.isDigit = true := by
  rcases mem_join h with hdot | ⟨ds, hds, hc⟩
  · exact .inl (List.mem_singleton.1 hdot)
  · obtain ⟨n, -, rfl⟩ := List.mem_map.1 hds
    exact .inr (Decimal.isDigit_of_mem_digits hc)

lemma pieces_dotted (hne : octets ≠ []) :
    pieces '.' (dotted octets) = octets.map Decimal.digits := by
  refine pieces_join (by simpa using hne) fun ds hds hdot => ?_
  obtain ⟨n, -, rfl⟩ := List.mem_map.1 hds
  exact absurd (Decimal.isDigit_of_mem_digits hdot) (by decide)

end Dotted

namespace Ipv4

/-- A run of digits that is an octet. It may begin with a zero that does not count only if `zeros`
says so. -/
structure IsOctet (zeros : Bool) (run : List Char) : Prop where
  isRun : Decimal.isRun run = true
  short : run.length ≤ 3
  le : Decimal.value run ≤ 255
  plain : zeros = true ∨ run.length = 1 ∨ run.head? ≠ some '0'

/-- The texts that an address may be written as: four octets with dots between them. -/
inductive Spells (zeros : Bool) : Ipv4 → List Char → Prop
  | octets {a b c d : List Char} (h : ∀ run ∈ [a, b, c, d], IsOctet zeros run) :
    Spells zeros
      (ofOctets (Decimal.value a) (Decimal.value b) (Decimal.value c) (Decimal.value d))
      (join ['.'] [a, b, c, d])

variable {zeros : Bool} {n a b c d : Nat} {x : Ipv4} {run s t rest : List Char}

/-! ## Octets -/

lemma IsOctet.isDigit (h : IsOctet zeros run) : ∀ c ∈ run, c.isDigit = true :=
  Decimal.isDigit_of_isRun h.isRun

lemma octet?_eq_some_iff (hdigits : ∀ c ∈ run, c.isDigit = true) :
    octet? zeros run = some n ↔ IsOctet zeros run ∧ Decimal.value run = n := by
  rw [octet?]
  split
  · next h =>
    obtain ⟨hpos, hshort, hle, hplain⟩ := h
    have hrun : Decimal.isRun run = true :=
      Decimal.isRun_iff.2 ⟨List.length_pos_iff.1 hpos, hdigits⟩
    rw [Option.some.injEq]
    exact ⟨fun hn => ⟨⟨hrun, hshort, hle, hplain⟩, hn⟩, And.right⟩
  · next h =>
    constructor
    · simp
    · rintro ⟨hoctet, -⟩
      have hpos : 1 ≤ run.length := List.length_pos_iff.2 (Decimal.isRun_iff.1 hoctet.isRun).1
      exact absurd ⟨hpos, hoctet.short, hoctet.le, hoctet.plain⟩ h

/-- An octet is read as far as its digits go. -/
lemma readOctet_eq_some_iff :
    readOctet zeros s = some (n, rest) ↔
      ∃ run, IsOctet zeros run ∧ Decimal.value run = n ∧ s = run ++ rest ∧ NoDigitHead rest := by
  rw [readOctet, Option.map_eq_some_iff]
  constructor
  · rintro ⟨m, hm, heq⟩
    obtain ⟨rfl, rfl⟩ := Prod.mk.inj heq
    obtain ⟨hoctet, hvalue⟩ := (octet?_eq_some_iff fun _ => Decimal.isDigit_of_mem_split).1 hm
    exact ⟨_, hoctet, hvalue, (Decimal.split_append s).symm, fun _ => of_mem_head?_dropWhile⟩
  · rintro ⟨run, hoctet, hvalue, rfl, hrest⟩
    rw [Decimal.split_of_isDigit hoctet.isDigit hrest]
    exact ⟨n, (octet?_eq_some_iff hoctet.isDigit).2 ⟨hoctet, hvalue⟩, rfl⟩

lemma readOctet_append (h : IsOctet zeros run) (hrest : NoDigitHead rest) :
    readOctet zeros (run ++ rest) = some (Decimal.value run, rest) :=
  readOctet_eq_some_iff.2 ⟨run, h, rfl, rfl, hrest⟩

/-- The digits of a number up to 255 are an octet without superfluous zeros. -/
lemma isOctet_digits (hn : n ≤ 255) : IsOctet zeros (Decimal.digits n) where
  isRun := Decimal.isRun_digits n
  short := (Nat.length_toDigits_le_iff (by decide) (by decide)).2 (by omega)
  le := by rwa [Decimal.value_digits]
  plain := by
    rcases Nat.eq_zero_or_pos n with rfl | hpos
    · exact .inr (.inl (by decide))
    · exact .inr (.inr (Decimal.head_digits_ne (by omega)))

lemma skipChar_eq_some_iff {y : Char} : skipChar y s = some rest ↔ s = y :: rest := by
  rcases s with _ | ⟨z, s⟩
  · simp [skipChar]
  · rw [skipChar]
    split
    · next h => simp [h]
    · next h => simp [h]

@[simp] lemma skipChar_self (y : Char) (s : List Char) : skipChar y (y :: s) = some s :=
  skipChar_eq_some_iff.2 rfl

/-! ## Addresses -/

/-- An address is read back from each of its spellings, whatever follows but a digit. -/
lemma read_append (h : Spells zeros x t) (hrest : NoDigitHead rest) :
    read zeros (t ++ rest) = some (x, rest) := by
  cases h with
  | @octets a b c d h =>
    have hdot (s : List Char) : NoDigitHead ('.' :: s) := noDigitHead_cons (by decide) s
    have htext : join ['.'] [a, b, c, d] ++ rest =
        a ++ '.' :: (b ++ '.' :: (c ++ '.' :: (d ++ rest))) := by
      simp [join]
    rw [htext, read, readOctet_append (h a (by simp)) (hdot _)]
    simp [readOctet_append (h b (by simp)) (hdot _), readOctet_append (h c (by simp)) (hdot _),
      readOctet_append (h d (by simp)) hrest]

/-- Only what is spelt is read. -/
lemma spells_of_read (h : read zeros s = some (x, rest)) :
    ∃ t, Spells zeros x t ∧ s = t ++ rest ∧ NoDigitHead rest := by
  simp only [read, Option.bind_eq_bind, Option.bind_eq_some_iff, Prod.exists,
    readOctet_eq_some_iff, skipChar_eq_some_iff, Option.pure_def, Option.some.injEq,
    Prod.mk.injEq] at h
  obtain ⟨_, _, ⟨a, ha, rfl, rfl, -⟩, _, rfl, _, _, ⟨b, hb, rfl, rfl, -⟩, _, rfl, _, _,
    ⟨c, hc, rfl, rfl, -⟩, _, rfl, _, _, ⟨d, hd, rfl, rfl, hrest⟩, rfl, rfl⟩ := h
  refine ⟨join ['.'] [a, b, c, d], .octets ?_, by simp [join], hrest⟩
  simp [ha, hb, hc, hd]

/-- A whole text is taken for an address exactly if it spells one without superfluous zeros. -/
lemma parse?_eq_some_iff {s : String} : parse? s = some x ↔ Spells false x s.toList := by
  rw [parse?]
  constructor
  · intro h
    split at h
    · next y hread =>
      obtain rfl := Option.some.inj h
      obtain ⟨t, ht, hs, -⟩ := spells_of_read hread
      rwa [hs, List.append_nil]
    · exact absurd h (by simp)
  · intro h
    have hread : read false (s.toList ++ []) = some (x, []) := read_append h noDigitHead_nil
    rw [List.append_nil] at hread
    rw [hread]

/-- No text of more or less than four octets spells an address. -/
lemma Spells.length_pieces (h : Spells zeros x t) : (pieces '.' t).length = 4 := by
  cases h with
  | @octets a b c d h =>
    rw [pieces_join (by simp) fun run hrun => Decimal.not_mem_of_isRun (h run hrun).isRun rfl]
    rfl

/-- Four octets in dotted decimal spell the address that has them. -/
lemma spells_dotted (ho : ∀ o ∈ [a, b, c, d], o ≤ 255) :
    Spells zeros (ofOctets a b c d) (dotted [a, b, c, d]) := by
  have hruns : ∀ run ∈ [a, b, c, d].map Decimal.digits, IsOctet zeros run := by
    intro run hrun
    obtain ⟨o, hmem, rfl⟩ := List.mem_map.1 hrun
    exact isOctet_digits (ho o hmem)
  simpa [dotted] using Spells.octets hruns

lemma parse?_dotted (ho : ∀ o ∈ [a, b, c, d], o ≤ 255) :
    parse? (String.ofList (dotted [a, b, c, d])) = some (ofOctets a b c d) :=
  parse?_eq_some_iff.2 (by simpa using spells_dotted ho)

end Ipv4

end ProxyProfiles.Network
