import ProxyProfiles.Proofs.Network.Address
import ProxyProfiles.Routing.RuleTable
/-!
# Which hosts a bypass entry covers

`Covers` says for each form of an entry what a host is compared with. The test of a host goes
through the forms in turn and leaves at the first that fits; `bypassCovers_iff` says that it finds
all the hosts that are covered and no others. For an entry whose form is known, there is one lemma
to say what is left of the cases.
-/

namespace ProxyProfiles

open Text Network

/-- The hosts that a bypass entry covers. -/
inductive Covers (entry host : String) : Prop
  /-- The entry is the host, up to the case of ASCII letters. -/
  | same (h : lowerCase entry = lowerCase host)
  /-- The entry is a star and something that the host ends in or has behind a dot in the entry. -/
  | star {rest : List Char} (h : entry.toList = '*' :: rest)
      (hhost : rest <:+ host.toList ∨ rest = '.' :: host.toList)
  /-- The entry begins with a dot, and the host ends in it. -/
  | dot (h : entry.toList.head? = some '.') (hhost : entry.toList <:+ host.toList)
  /-- The entry begins with neither. It is a block, and the host is an address in it. -/
  | block {b : Block} {a : Address} (hstar : entry.toList.head? ≠ some '*')
      (hdot : entry.toList.head? ≠ some '.') (hb : Block.Spells b entry.toList)
      (ha : Address.Spells a host.toList) (h : b.Holds a)

variable {entry host : String} {rest : List Char}

/-! ## Entries of a known form -/

lemma covers_iff_of_star (h : entry.toList = '*' :: rest)
    (hsame : lowerCase entry ≠ lowerCase host) :
    Covers entry host ↔ rest <:+ host.toList ∨ rest = '.' :: host.toList := by
  constructor
  · rintro (hsame' | ⟨h', hhost⟩ | ⟨hdot, -⟩ | ⟨hstar, -⟩)
    · exact absurd hsame' hsame
    · obtain ⟨-, rfl⟩ := List.cons.inj (h.symm.trans h')
      exact hhost
    · simp [h] at hdot
    · simp [h] at hstar
  · exact .star h

lemma covers_iff_of_dot (h : entry.toList = '.' :: rest)
    (hsame : lowerCase entry ≠ lowerCase host) :
    Covers entry host ↔ '.' :: rest <:+ host.toList := by
  constructor
  · rintro (hsame' | ⟨hstar, -⟩ | ⟨-, hhost⟩ | ⟨-, hdot, -⟩)
    · exact absurd hsame' hsame
    · simp [h] at hstar
    · rwa [← h]
    · simp [h] at hdot
  · intro hhost
    exact .dot (by rw [h]; rfl) (by rwa [h])

lemma covers_iff_of_neither (hstar : entry.toList.head? ≠ some '*')
    (hdot : entry.toList.head? ≠ some '.') (hsame : lowerCase entry ≠ lowerCase host) :
    Covers entry host ↔
      ∃ a b, Address.parse? host = some a ∧ Block.parse? entry = some b ∧ b.contains a = true := by
  simp only [Address.parse?_eq_some_iff, Block.parse?_eq_some_iff]
  constructor
  · rintro (hsame' | ⟨hstar', -⟩ | ⟨hdot', -⟩ | ⟨-, -, hb, ha, h⟩)
    · exact absurd hsame' hsame
    · simp [hstar'] at hstar
    · exact absurd hdot' hdot
    · exact ⟨_, _, ha, hb, (Block.contains_iff hb _).2 h⟩
  · rintro ⟨a, b, ha, hb, h⟩
    exact .block hstar hdot hb ha ((Block.contains_iff hb a).1 h)

/-! ## All entries -/

/-- The test of a host finds what the entry covers. -/
lemma bypassCovers_iff : bypassCovers host entry = true ↔ Covers entry host := by
  unfold bypassCovers
  split
  · next hsame => simpa using Covers.same hsame
  · next hsame =>
    split
    · next rest h =>
      rw [covers_iff_of_star h hsame]
      simp
    · next rest h =>
      rw [covers_iff_of_dot h hsame]
      simp
    · next hstar hdot =>
      have hhead {c : Char} (hne : ∀ rest, entry.toList ≠ c :: rest) :
          entry.toList.head? ≠ some c := by
        intro h
        obtain ⟨rest, hrest⟩ := List.head?_eq_some_iff.1 h
        exact hne rest hrest
      rw [covers_iff_of_neither (hhead hstar) (hhead hdot) hsame]
      split
      · next a b ha hb => simp [ha, hb]
      · next h =>
        simp only [Bool.false_eq_true, false_iff]
        rintro ⟨a, b, ha, hb, -⟩
        exact h a b ha hb

namespace RuleTable

variable {t : RuleTable}

lemma isBypassed_iff : t.isBypassed host = true ↔ ∃ entry ∈ t.bypassList, Covers entry host := by
  simp only [isBypassed, List.any_eq_true, bypassCovers_iff]

/-- The bypass entries do not depend on the protocol. -/
lemma bypassList_ofProfile (p : Profile) : (ofProfile p).bypassList = bypassOf p := by
  unfold ofProfile
  cases p.protocol <;> rfl

end RuleTable

end ProxyProfiles
