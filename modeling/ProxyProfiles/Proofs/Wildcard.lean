import ProxyProfiles.Proofs.Bypass
import ProxyProfiles.Proofs.LetterCase
import ProxyProfiles.Routing.Payload
import Mathlib.Data.List.Infix
import Mathlib.Tactic.Lemma
/-!
# Wildcard entries in the two policy modes

An entry `*.d` of a domain list is meant for the domain `d` itself and for every domain below it
(`IsWithin`). A blacklist takes it that way. A whitelist asks whether the host ends in the text `d`,
which is so for more hosts: for `notexample.com` besides `www.example.com`, when `d` is
`example.com`. `wildcard_covers_iff` says which hosts either mode covers, and for which hosts the
two agree.
-/

namespace ProxyProfiles

open Text Network

/-- Whether a host is a domain or lies below it. -/
def IsWithin (host domain : String) : Prop :=
  host = domain ∨ '.' :: domain.toList <:+ host.toList

instance (host domain : String) : Decidable (IsWithin host domain) :=
  inferInstanceAs (Decidable (_ ∨ _))

/-- A profile with another policy. -/
def Profile.listing (p : Profile) (mode : PolicyMode) (domains : List String) : Profile :=
  { p with policyMode := mode, domainList := domains }

section Suffixes

variable {host domain : String}

lemma IsWithin.suffix (h : IsWithin host domain) : domain.toList <:+ host.toList := by
  rcases h with rfl | h
  · exact List.suffix_rfl
  · exact (List.suffix_cons _ _).trans h

/-- A host that ends in the text of a domain lies within it unless some other character than a dot
stands in front of that text. -/
lemma isWithin_iff_of_suffix (h : domain.toList <:+ host.toList) :
    IsWithin host domain ↔ ∀ l c, host.toList = l ++ c :: domain.toList → c = '.' := by
  obtain ⟨l, hl⟩ := h
  constructor
  · rintro (rfl | ⟨l', hl'⟩) k c hk
    · have hlen := congrArg List.length hk
      simp only [List.length_append, List.length_cons] at hlen
      omega
    · obtain ⟨-, hc⟩ := List.append_inj' (hl'.trans hk) rfl
      exact (List.cons.inj hc).1.symm
  · intro h
    rcases List.eq_nil_or_concat l with rfl | ⟨k, c, rfl⟩
    · left
      exact String.toList_injective (by simpa using hl.symm)
    · right
      have hk : host.toList = k ++ c :: domain.toList := by simpa using hl.symm
      obtain rfl := h k c hk
      exact ⟨k, hk.symm⟩

end Suffixes

/-! ## The whitelist -/

namespace Condition

lemma isDotted_star (s : List Char) : isDotted ('*' :: s) = false := by
  have hrun : Decimal.isRun ('*' :: (cut '.' s).1) = false := rfl
  rw [isDotted, pieces_cons_ne (by decide), List.all_cons, hrun]
  simp

lemma network?_star (s : List Char) : network? ('*' :: s) = none := by
  rw [network?, pieces_cons_ne (by decide)]
  split
  · next n k h =>
    obtain ⟨rfl, -⟩ := List.cons.inj h
    simp [isDotted_star]
  · rfl

/-- An entry with a star and a dot in front is neither a network nor an address. -/
lemma ofEntry_star (d : String) : ofEntry ("*." ++ d) = .wildcard d := by
  have hs : ("*." ++ d).toList = '*' :: '.' :: d.toList := by simp
  simp only [ofEntry, hs, network?_star, isDotted_star, starred?]
  simp

lemma endsIn_iff {host suffix : String} :
    endsIn host suffix = true ↔ suffix.toList <:+ host.toList := by
  rw [endsIn, List.isSuffixOf_iff_suffix]

/-- The first of the two tests of a wildcard is never needed. -/
lemma holds_wildcard_iff (d host : String) (resolve : String → Option Ipv4) :
    (wildcard d).holds host resolve = true ↔ d.toList <:+ host.toList := by
  have hdot : ("." ++ d).toList = '.' :: d.toList := by simp
  rw [holds, Bool.or_eq_true, endsIn_iff, endsIn_iff, hdot]
  constructor
  · rintro (h | h)
    · exact (List.suffix_cons _ _).trans h
    · exact h
  · exact .inr

end Condition

lemma RoutingScript.decide_eq_viaProxy_iff (s : RoutingScript) (host : String)
    (resolve : String → Option Ipv4) :
    s.decide host resolve = .viaProxy s.proxy ↔
      ∃ c ∈ s.conditions, c.holds host resolve = true := by
  rw [RoutingScript.decide]
  split
  · next h => simpa using h
  · next h => simpa using h

/-! ## The blacklist -/

/-- Up to case, an entry with a star in front is no host without one. -/
lemma lowerCase_star_ne {host d : String} (h : host.toList.head? ≠ some '*') :
    lowerCase ("*." ++ d) ≠ lowerCase host := by
  intro heq
  have hletters : SameLetters host.toList ('*' :: '.' :: d.toList) := by
    simpa using lowerCase_eq_iff.1 heq.symm
  obtain ⟨rest, hrest, -⟩ := hletters.exists_cons rfl
  exact h (by rw [hrest]; rfl)

/-- On hosts without a star, an entry with a star and a dot in front means what it is meant for. -/
lemma bypassCovers_star {host d : String} (h : host.toList.head? ≠ some '*') :
    bypassCovers host ("*." ++ d) = true ↔ IsWithin host d := by
  have hs : ("*." ++ d).toList = '*' :: '.' :: d.toList := by simp
  rw [bypassCovers_iff, covers_iff_of_star hs (lowerCase_star_ne h)]
  simp only [List.cons.injEq, true_and, String.toList_inj]
  rw [IsWithin, or_comm, eq_comm]

/-! ## Both -/

/-- Of the entry `*.d`, a whitelist makes the hosts that end in the text `d`, and a blacklist makes
the hosts within the domain `d`. A whitelist therefore covers what is within the domain and nothing
else only as long as the host has nothing but a dot in front of such an ending. -/
theorem wildcard_covers_iff (p : Profile) (d host : String) (resolve : String → Option Ipv4)
    (hhost : host.toList.head? ≠ some '*') :
    ∃ s t, (p.listing .whitelist ["*." ++ d]).compile = .script s ∧
      (p.listing .blacklist ["*." ++ d]).compile = .rules t ∧
      (s.decide host resolve = .viaProxy s.proxy ↔ d.toList <:+ host.toList) ∧
      (t.isBypassed host = true ↔ IsWithin host d) ∧
      ((s.decide host resolve = .viaProxy s.proxy ↔ IsWithin host d) ↔
        ∀ l c, host.toList = l ++ c :: d.toList → c = '.') := by
  have hwhite : (RoutingScript.ofProfile (p.listing .whitelist ["*." ++ d])).decide host resolve =
      .viaProxy (RoutingScript.ofProfile (p.listing .whitelist ["*." ++ d])).proxy ↔
        d.toList <:+ host.toList := by
    rw [RoutingScript.decide_eq_viaProxy_iff]
    simp [RoutingScript.ofProfile, Profile.listing, Condition.ofEntry_star,
      Condition.holds_wildcard_iff]
  have hblack : (RuleTable.ofProfile (p.listing .blacklist ["*." ++ d])).isBypassed host = true ↔
      IsWithin host d := by
    rw [RuleTable.isBypassed, RuleTable.bypassList_ofProfile]
    simp [RuleTable.bypassOf, Profile.listing, bypassCovers_star hhost]
  refine ⟨_, _, rfl, rfl, hwhite, hblack, ?_⟩
  rw [hwhite]
  constructor
  · intro hiff l c hl
    have hsuffix : d.toList <:+ host.toList := ⟨l ++ [c], by simp [hl]⟩
    exact (isWithin_iff_of_suffix hsuffix).1 (hiff.1 hsuffix) l c hl
  · intro hdot
    exact ⟨fun hsuffix => (isWithin_iff_of_suffix hsuffix).2 hdot, IsWithin.suffix⟩

/-- A profile with an entry for `example.com` and the domains below it. -/
def Profile.wildcardSample (mode : PolicyMode) : Profile :=
  (Profile.ofDraft "1" (Draft.new "P" .http "10.0.0.1" 8080)).listing mode ["*.example.com"]

/-- A domain below `example.com` is covered in both modes. -/
theorem wildcard_covers_subdomain :
    "www.example.com".toList.head? ≠ some '*' ∧
    ∃ s t, (Profile.wildcardSample .whitelist).compile = .script s ∧
      (Profile.wildcardSample .blacklist).compile = .rules t ∧
      s.decide "www.example.com" (fun _ => none) = .viaProxy s.proxy ∧
      t.isBypassed "www.example.com" = true := by
  have hhost : "www.example.com".toList.head? ≠ some '*' := by decide
  have hwithin : IsWithin "www.example.com" "example.com" := by decide
  obtain ⟨s, t, hs, ht, hwhite, hblack, -⟩ := wildcard_covers_iff
    (Profile.ofDraft "1" (Draft.new "P" .http "10.0.0.1" 8080)) "example.com" "www.example.com"
    (fun _ => none) hhost
  exact ⟨hhost, s, t, hs, ht, hwhite.2 hwithin.suffix, hblack.2 hwithin⟩

/-- Another domain that ends in the text `example.com` is covered by the whitelist alone. -/
theorem wildcard_whitelist_covers_foreign_domain :
    ¬ IsWithin "notexample.com" "example.com" ∧
    (RoutingScript.ofProfile (.wildcardSample .whitelist)).decide "notexample.com" (fun _ => none) =
      .viaProxy (.proxy "10.0.0.1" 8080) ∧
    (RuleTable.ofProfile (.wildcardSample .blacklist)).isBypassed "notexample.com" = false := by
  decide

end ProxyProfiles
