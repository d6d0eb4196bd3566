import ProxyProfiles.Proofs.LetterCase
import ProxyProfiles.Proofs.Wildcard
/-!
# Letter case in the hosts that bypass

The names of hosts are the same in upper case and in lower case. Not every bypass entry heeds this.

* An entry that begins with neither a star nor a dot covers a host in all its spellings. It is
  compared with the whole host without regard to case, or it is a block, and the digits of an
  address are read in either case (`covers_of_sameLetters`).
* An entry that begins with a star or a dot is an *ending*: what a host ends in is compared with it
  letter by letter.

So a rule table takes no notice of case exactly if it also bypasses what its endings would cover in
any other spelling (`ignoresCase_iff`). That is so if its endings have no letters, and for a table
with an ending as its only entry it is not so otherwise. A host in upper case then goes to the
proxy where it should not (`upper_case_host_not_bypassed`).
-/

namespace ProxyProfiles

open Text Network

/-! ## Addresses -/

namespace Network

variable {zeros octets : Bool} {g : Nat} {gs : List Nat} {sp : Spelling} {x : Ipv4} {y : Ipv6}
  {run run' t t' : List Char}

lemma digit?_toLower (c : Char) : Hexadecimal.digit? c.toLower = Hexadecimal.digit? c := by
  have hascii : ∀ n < 128, Hexadecimal.digit? (Char.ofNat n).toLower =
      Hexadecimal.digit? (Char.ofNat n) := by decide
  cases h : c.isAlpha with
  | true =>
    rw [← Char.ofNat_toNat c]
    exact hascii _ (toNat_lt_of_isAlpha h)
  | false => rw [toLower_of_isAlpha_eq_false h]

lemma value?_map_toLower (ds : List Char) :
    Hexadecimal.value? (ds.map Char.toLower) = Hexadecimal.value? ds := by
  simp only [Hexadecimal.value?, List.foldlM_map, digit?_toLower]

lemma Ipv6.IsGroup.of_sameLetters (h : Ipv6.IsGroup run g) (hrun : SameLetters run' run) :
    Ipv6.IsGroup run' g where
  value := by rw [← value?_map_toLower, hrun, value?_map_toLower, h.value]
  pos := by rw [hrun.length_eq]; exact h.pos
  short := by rw [hrun.length_eq]; exact h.short

/-- Octets have no letters. -/
lemma Ipv4.Spells.eq_of_sameLetters (h : Ipv4.Spells zeros x t) (ht : SameLetters t' t) :
    t' = t := by
  refine ht.eq_of_isAlpha fun c hc => ?_
  obtain ⟨hruns⟩ := h
  rcases mem_join hc with hdot | ⟨run, hrun, hc⟩
  · rw [List.mem_singleton.1 hdot]
    rfl
  · exact isAlpha_of_isDigit ((hruns run hrun).isDigit c hc)

lemma Ipv6.SpellsGroups.of_sameLetters (h : Ipv6.SpellsGroups zeros gs octets t)
    (ht : SameLetters t' t) : Ipv6.SpellsGroups zeros gs octets t' := by
  induction h generalizing t' with
  | group h => exact .group (h.of_sameLetters ht)
  | octets h =>
    rw [h.eq_of_sameLetters ht]
    exact .octets h
  | cons h hs ih =>
    obtain ⟨run', u, rfl, hrun, hu⟩ := ht.exists_append
    obtain ⟨u', rfl, hu'⟩ := hu.exists_cons rfl
    exact .cons (h.of_sameLetters hrun) (ih hu')

lemma Ipv6.SpellsRun.of_sameLetters (h : Ipv6.SpellsRun zeros gs octets t)
    (ht : SameLetters t' t) : Ipv6.SpellsRun zeros gs octets t' := by
  cases h with
  | none =>
    rw [ht.eq_of_isAlpha (by simp)]
    exact .none
  | some h => exact .some (h.of_sameLetters ht)

lemma Ipv6.Spells.of_sameLetters (h : Ipv6.Spells sp y t) (ht : SameLetters t' t) :
    Ipv6.Spells sp y t' := by
  cases h with
  | full h hlength => exact .full (h.of_sameLetters ht) hlength
  | gap hhead htail hlt hlength =>
    obtain ⟨head, rest, rfl, hhead', hrest⟩ := ht.exists_append
    obtain ⟨rest', rfl, hrest'⟩ := hrest.exists_cons rfl
    obtain ⟨tail, rfl, htail'⟩ := hrest'.exists_cons rfl
    exact .gap (hhead.of_sameLetters hhead') (htail.of_sameLetters htail') hlt hlength

/-- The digits of an address may be in either case. -/
lemma Address.Spells.of_sameLetters {a : Address} (h : Address.Spells a t)
    (ht : SameLetters t' t) : Address.Spells a t' := by
  cases h with
  | v4 h =>
    rw [h.eq_of_sameLetters ht]
    exact .v4 h
  | v6 h => exact .v6 (h.of_sameLetters ht)

end Network

/-! ## Entries -/

/-- An entry that is compared with what a host ends in. -/
def IsEnding (entry : String) : Prop :=
  entry.toList.head? = some '*' ∨ entry.toList.head? = some '.'

instance (entry : String) : Decidable (IsEnding entry) :=
  inferInstanceAs (Decidable (_ ∨ _))

section Entries

variable {entry entry' host host' : String} {s : List Char}

lemma isEnding_iff : IsEnding entry ↔ ∃ c rest, (c = '*' ∨ c = '.') ∧ entry.toList = c :: rest := by
  simp only [IsEnding, List.head?_eq_some_iff]
  constructor
  · rintro (⟨rest, h⟩ | ⟨rest, h⟩)
    · exact ⟨'*', rest, .inl rfl, h⟩
    · exact ⟨'.', rest, .inr rfl, h⟩
  · rintro ⟨c, rest, rfl | rfl, h⟩
    · exact .inl ⟨rest, h⟩
    · exact .inr ⟨rest, h⟩

lemma lowerCase_ofList_eq (h : SameLetters s entry.toList) :
    lowerCase (String.ofList s) = lowerCase entry :=
  lowerCase_eq_iff.2 (by rwa [String.toList_ofList])

/-- An entry that is no ending covers hosts in all their spellings. -/
lemma covers_of_sameLetters (hentry : ¬ IsEnding entry) (h : Covers entry host)
    (hhost : lowerCase host' = lowerCase host) : Covers entry host' := by
  cases h with
  | same h => exact .same (h.trans hhost.symm)
  | star h => exact absurd (.inl (by rw [h]; rfl)) hentry
  | dot h => exact absurd (.inr h) hentry
  | block hstar hdot hb ha h =>
    exact .block hstar hdot hb (ha.of_sameLetters (lowerCase_eq_iff.1 hhost)) h

/-- What covers a host in one spelling covers it in another one after a change of its own
spelling. -/
lemma Covers.exists_entry (h : Covers entry host) (hhost : lowerCase host' = lowerCase host) :
    ∃ entry', lowerCase entry' = lowerCase entry ∧ Covers entry' host' := by
  have hletters := lowerCase_eq_iff.1 hhost
  cases h with
  | same h => exact ⟨entry, rfl, .same (h.trans hhost.symm)⟩
  | @star rest h hcover =>
    -- what stands behind the star is respelt as the end of the host is
    obtain ⟨rest', hrest, hcover'⟩ :
        ∃ rest', SameLetters rest' rest ∧ (rest' <:+ host'.toList ∨ rest' = '.' :: host'.toList) := by
      rcases hcover with hsuffix | rfl
      · obtain ⟨rest', hsuffix', hrest⟩ := hletters.exists_suffix hsuffix
        exact ⟨rest', hrest, .inl hsuffix'⟩
      · exact ⟨_, hletters.cons '.', .inr rfl⟩
    have hentry : SameLetters ('*' :: rest') entry.toList := by
      rw [h]
      exact hrest.cons '*'
    exact ⟨String.ofList ('*' :: rest'), lowerCase_ofList_eq hentry,
      .star String.toList_ofList hcover'⟩
  | dot h hsuffix =>
    obtain ⟨s, hsuffix', hs⟩ := hletters.exists_suffix hsuffix
    obtain ⟨rest, hrest⟩ := List.head?_eq_some_iff.1 h
    obtain ⟨rest', rfl, -⟩ := (hrest ▸ hs).exists_cons rfl
    exact ⟨String.ofList ('.' :: rest'), lowerCase_ofList_eq hs, .dot (by simp) (by simpa)⟩
  | block hstar hdot hb ha h =>
    exact ⟨entry, rfl, .block hstar hdot hb (ha.of_sameLetters hletters) h⟩

/-- What an ending covers in another spelling, the ending itself covers in another spelling of the
host. -/
lemma Covers.exists_host (h : Covers entry' host) (hentry' : lowerCase entry' = lowerCase entry)
    (hentry : IsEnding entry) : ∃ host', lowerCase host' = lowerCase host ∧ Covers entry host' := by
  have hletters := lowerCase_eq_iff.1 hentry'.symm
  cases h with
  | same h => exact ⟨host, rfl, .same (hentry'.symm.trans h)⟩
  | @star rest' h hcover =>
    obtain ⟨rest, hrest, hletters⟩ := (h ▸ hletters).exists_cons rfl
    rcases hcover with hsuffix | rfl
    · obtain ⟨host', hsuffix', hhost'⟩ := hletters.exists_of_suffix hsuffix
      exact ⟨String.ofList host', lowerCase_ofList_eq hhost', .star hrest (.inl (by simpa))⟩
    · obtain ⟨host', rfl, hhost'⟩ := hletters.exists_cons rfl
      exact ⟨String.ofList host', lowerCase_ofList_eq hhost', .star hrest (.inr (by simp))⟩
  | dot h hsuffix =>
    obtain ⟨rest', hrest'⟩ := List.head?_eq_some_iff.1 h
    obtain ⟨rest, hrest, -⟩ := (hrest' ▸ hletters).exists_cons rfl
    obtain ⟨host', hsuffix', hhost'⟩ := hletters.exists_of_suffix hsuffix
    exact ⟨String.ofList host', lowerCase_ofList_eq hhost', .dot (by rw [hrest]; rfl) (by simpa)⟩
  | block hstar hdot =>
    -- an ending begins alike in every spelling
    obtain ⟨c, rest, hc, hrest⟩ := isEnding_iff.1 hentry
    obtain ⟨rest', hrest', -⟩ :=
      (hrest ▸ hletters.symm).exists_cons (by rcases hc with rfl | rfl <;> rfl)
    rcases hc with rfl | rfl
    · simp [hrest'] at hstar
    · simp [hrest'] at hdot

section Respelt

variable {rest rest' : List Char}

/-- What stands behind a star does not cover itself in another spelling. -/
lemma not_covers_of_star (h : entry.toList = '*' :: rest) (hletters : SameLetters rest' rest)
    (hne : rest' ≠ rest) : ¬ Covers entry (String.ofList rest') := by
  have hsame : lowerCase entry ≠ lowerCase (String.ofList rest') := by
    intro heq
    have hlength := (lowerCase_eq_iff.1 heq).length_eq
    simp [h, hletters.length_eq] at hlength
  rw [covers_iff_of_star h hsame, String.toList_ofList]
  rintro (hsuffix | heq)
  · exact hne (hsuffix.eq_of_length hletters.length_eq.symm).symm
  · have hlength := congrArg List.length heq
    simp [hletters.length_eq] at hlength

/-- An entry with a dot in front does not cover what ends in it in another spelling. -/
lemma not_covers_of_dot (h : entry.toList = '.' :: rest) (hletters : SameLetters rest' rest)
    (hne : rest' ≠ rest) : ¬ Covers entry (String.ofList ('x' :: '.' :: rest')) := by
  have hsame : lowerCase entry ≠ lowerCase (String.ofList ('x' :: '.' :: rest')) := by
    intro heq
    have hlength := (lowerCase_eq_iff.1 heq).length_eq
    simp [h, hletters.length_eq] at hlength
  rw [covers_iff_of_dot h hsame, String.toList_ofList]
  intro hsuffix
  rcases List.suffix_cons_iff.1 hsuffix with heq | hsuffix
  · exact absurd (List.cons.inj heq).1 (by decide)
  · have heq := hsuffix.eq_of_length (by simp [hletters.length_eq])
    exact hne (List.cons.inj heq).2.symm

end Respelt

/-- An ending with letters fails to cover some host that it would cover in another spelling. -/
lemma exists_covers_of_isAlpha (hentry : IsEnding entry)
    (halpha : ∃ c ∈ entry.toList, c.isAlpha = true) :
    ∃ entry' host, lowerCase entry' = lowerCase entry ∧ Covers entry' host ∧
      ¬ Covers entry host := by
  obtain ⟨s, hs, hne⟩ := SameLetters.exists_ne halpha
  obtain ⟨c, rest, hc, hrest⟩ := isEnding_iff.1 hentry
  obtain ⟨rest', rfl, hletters⟩ := (hrest ▸ hs).exists_cons (by rcases hc with rfl | rfl <;> rfl)
  have hne' : rest' ≠ rest := fun heq => hne (by rw [hrest, heq])
  rcases hc with rfl | rfl
  · exact ⟨String.ofList ('*' :: rest'), String.ofList rest', lowerCase_ofList_eq hs,
      .star String.toList_ofList (.inl (by simp)), not_covers_of_star hrest hletters hne'⟩
  · exact ⟨String.ofList ('.' :: rest'), String.ofList ('x' :: '.' :: rest'),
      lowerCase_ofList_eq hs, .dot (by simp) (by simp), not_covers_of_dot hrest hletters hne'⟩

end Entries

/-! ## Rule tables -/

namespace RuleTable

/-- A rule table treats all spellings of a host alike. -/
def IgnoresCase (t : RuleTable) : Prop :=
  ∀ host host', lowerCase host = lowerCase host' →
    t.isBypassed host = t.isBypassed host' ∧
    ∀ scheme, t.select scheme host = t.select scheme host'

variable {t : RuleTable}

lemma ignoresCase_of_isBypassed
    (h : ∀ host host', lowerCase host = lowerCase host' →
      t.isBypassed host = true → t.isBypassed host' = true) : t.IgnoresCase := by
  intro host host' hhost
  have heq : t.isBypassed host = t.isBypassed host' :=
    Bool.eq_iff_iff.2 ⟨h host host' hhost, h host' host hhost.symm⟩
  exact ⟨heq, fun scheme => by rw [select, select, heq]⟩

/-- Case is ignored if what the endings would cover in another spelling is bypassed anyhow, and
only then. -/
lemma ignoresCase_iff_of_endings :
    t.IgnoresCase ↔ ∀ entry ∈ t.bypassList, IsEnding entry →
      ∀ entry' host, lowerCase entry' = lowerCase entry → Covers entry' host →
        t.isBypassed host = true := by
  constructor
  · intro h entry hmem hending entry' host hentry' hcover
    obtain ⟨host', hhost', hcover'⟩ := hcover.exists_host hentry' hending
    rw [← (h host' host hhost').1]
    exact isBypassed_iff.2 ⟨entry, hmem, hcover'⟩
  · refine fun h => ignoresCase_of_isBypassed fun host host' hhost hbypassed => ?_
    obtain ⟨entry, hmem, hcover⟩ := isBypassed_iff.1 hbypassed
    by_cases hending : IsEnding entry
    · obtain ⟨entry', hentry', hcover'⟩ := hcover.exists_entry hhost.symm
      exact h entry hmem hending entry' host' hentry' hcover'
    · exact isBypassed_iff.2 ⟨entry, hmem, covers_of_sameLetters hending hcover hhost.symm⟩

/-- Endings without letters have no other spelling. -/
lemma ignoresCase_of_isAlpha
    (h : ∀ entry ∈ t.bypassList, IsEnding entry → ∀ c ∈ entry.toList, c.isAlpha = false) :
    t.IgnoresCase := by
  refine ignoresCase_iff_of_endings.2 fun entry hmem hending entry' host hentry' hcover => ?_
  rw [eq_of_lowerCase_eq (h entry hmem hending) hentry'] at hcover
  exact isBypassed_iff.2 ⟨entry, hmem, hcover⟩

lemma isAlpha_of_ignoresCase {entry : String} (ht : t.bypassList = [entry]) (h : t.IgnoresCase)
    (hending : IsEnding entry) : ∀ c ∈ entry.toList, c.isAlpha = false := by
  by_contra hletters
  simp only [not_forall, Bool.not_eq_false] at hletters
  obtain ⟨c, hc, halpha⟩ := hletters
  obtain ⟨entry', host, hentry', hcover, hnot⟩ := exists_covers_of_isAlpha hending ⟨c, hc, halpha⟩
  have hbypassed := ignoresCase_iff_of_endings.1 h entry (by simp [ht]) hending entry' host hentry'
    hcover
  exact hnot (by simpa [isBypassed_iff, ht] using hbypassed)

/-- A rule table treats all spellings of a host alike exactly if each host is bypassed that one of
its endings covers in any spelling of the ending. That is so if its endings have no letters. With
an ending for its only entry, it is so in no other case. -/
theorem ignoresCase_iff (t : RuleTable) :
    (t.IgnoresCase ↔ ∀ entry ∈ t.bypassList, IsEnding entry →
      ∀ entry' host, lowerCase entry' = lowerCase entry → Covers entry' host →
        t.isBypassed host = true) ∧
    ((∀ entry ∈ t.bypassList, IsEnding entry → ∀ c ∈ entry.toList, c.isAlpha = false) →
      t.IgnoresCase) ∧
    ∀ entry, t.bypassList = [entry] →
      (t.IgnoresCase ↔ (IsEnding entry → ∀ c ∈ entry.toList, c.isAlpha = false)) := by
  refine ⟨ignoresCase_iff_of_endings, ignoresCase_of_isAlpha, fun entry ht => ?_⟩
  refine ⟨isAlpha_of_ignoresCase ht, fun h => ignoresCase_of_isAlpha ?_⟩
  simpa [ht] using h

/-- With the entry `*.example.com`, a host in lower case is bypassed and the same host in upper
case goes to the proxy. -/
theorem upper_case_host_not_bypassed :
    let t := ofProfile (.wildcardSample .blacklist)
    lowerCase "www.example.com" = lowerCase "WWW.EXAMPLE.COM" ∧
    t.isBypassed "www.example.com" = true ∧ t.isBypassed "WWW.EXAMPLE.COM" = false ∧
    t.select "http" "www.example.com" = none ∧
    t.select "http" "WWW.EXAMPLE.COM" = some ⟨"http", "10.0.0.1", 8080⟩ ∧
    ¬ t.IgnoresCase := by
  intro t
  have hcase : lowerCase "www.example.com" = lowerCase "WWW.EXAMPLE.COM" := by decide
  have hlower : t.isBypassed "www.example.com" = true := by decide
  have hupper : t.isBypassed "WWW.EXAMPLE.COM" = false := by decide
  refine ⟨hcase, hlower, hupper, by decide, by decide, fun h => ?_⟩
  have heq := (h _ _ hcase).1
  rw [hlower, hupper] at heq
  contradiction

end RuleTable

end ProxyProfiles
