import ProxyProfiles.Proofs.Network.Netmask
import ProxyProfiles.Proofs.Wildcard
/-!
# What the shape of an entry says

An entry of a domain list stands for a condition, and which one is a matter of its shape alone. The
shapes are described by how a text is put together:

* `IsQuad`: four runs of digits with dots between them;
* `IsNetwork`: such a text, a slash and a run of digits behind it;
* `StandsFor`: the condition for each shape, and that for an entry of no shape.

The entry is cut at its slashes and dots to find its shape, and `ofEntry_eq_iff` says that this
finds the right one. `ofEntry_classifies` spells it out for each kind of condition.
-/

namespace ProxyProfiles

open Text Network

namespace Condition

/-- Four runs of digits with dots between them. -/
def IsQuad (s : List Char) : Prop :=
  ∃ a b c d, (∀ run ∈ [a, b, c, d], Decimal.isRun run = true) ∧ s = join ['.'] [a, b, c, d]

/-- The entry `n/l`, with four runs of digits for `n` and one for `l`. -/
structure IsNetwork (entry n l : String) : Prop where
  eq : entry = n ++ "/" ++ l
  quad : IsQuad n.toList
  run : Decimal.isRun l.toList = true

/-- The condition that an entry stands for by its shape. -/
inductive StandsFor : String → Condition → Prop
  /-- A network whose length is a number of 32 bits. -/
  | network {entry n l : String} (h : IsNetwork entry n l)
      (hsize : Decimal.value l.toList < UInt32.size) :
    StandsFor entry (cidr n (Netmask.text (Decimal.value l.toList)))
  /-- An address. -/
  | address {entry : String} (h : IsQuad entry.toList) : StandsFor entry (literal entry)
  /-- A star and a dot in front of a domain. -/
  | star (d : String) : StandsFor ("*." ++ d) (wildcard d)
  /-- None of these. -/
  | other {entry : String}
      (hnetwork : ∀ n l, IsNetwork entry n l → UInt32.size ≤ Decimal.value l.toList)
      (hquad : ¬ IsQuad entry.toList) (hstar : ∀ d, entry ≠ "*." ++ d) :
    StandsFor entry (domain entry)

variable {entry n l : String} {s d : List Char} {k : Nat} {c : Condition}

/-! ## Cutting at dots and slashes -/

lemma isDotted_iff : isDotted s = true ↔ IsQuad s := by
  constructor
  · intro h
    simp only [isDotted, Bool.and_eq_true, beq_iff_eq, List.all_eq_true] at h
    obtain ⟨hlength, hruns⟩ := h
    obtain ⟨a, b, c, d, hpieces⟩ := List.length_eq_four.1 hlength
    rw [hpieces] at hruns
    refine ⟨a, b, c, d, hruns, ?_⟩
    rw [← hpieces, join_pieces]
  · rintro ⟨a, b, c, d, hruns, rfl⟩
    have hdot : ∀ run ∈ [a, b, c, d], '.' ∉ run :=
      fun run hrun => Decimal.not_mem_of_isRun (hruns run hrun) rfl
    rw [isDotted, pieces_join (by simp) hdot]
    simpa using hruns

/-- Runs of digits with dots between them have no other characters. -/
lemma IsQuad.mem (h : IsQuad s) {x : Char} (hx : x ∈ s) : x = '.' ∨ x.isDigit = true := by
  obtain ⟨a, b, c, d, hruns, rfl⟩ := h
  rcases mem_join hx with hdot | ⟨run, hrun, hx⟩
  · exact .inl (List.mem_singleton.1 hdot)
  · exact .inr (Decimal.isDigit_of_isRun (hruns run hrun) x hx)

lemma IsQuad.slash_not_mem (h : IsQuad s) : '/' ∉ s := by
  intro hslash
  rcases h.mem hslash with hdot | hdigit
  · exact absurd hdot (by decide)
  · exact absurd hdigit (by decide)

lemma IsNetwork.pieces_eq (h : IsNetwork entry n l) :
    pieces '/' entry.toList = [n.toList, l.toList] := by
  have hentry : entry.toList = n.toList ++ '/' :: l.toList := by
    simp [h.eq]
  rw [hentry, pieces_append_cons h.quad.slash_not_mem,
    pieces_of_not_mem (Decimal.not_mem_of_isRun h.run rfl)]

lemma network?_eq_some_iff :
    network? entry.toList = some (n.toList, k) ↔
      ∃ l, IsNetwork entry n l ∧ Decimal.value l.toList = k ∧ k < UInt32.size := by
  constructor
  · intro h
    unfold network? at h
    split at h
    · next n' l' hpieces =>
      split at h
      · next hcond =>
        obtain ⟨hquad, hrun, hsize⟩ := hcond
        obtain ⟨rfl, rfl⟩ := Prod.mk.inj (Option.some.inj h)
        refine ⟨String.ofList l', ⟨?_, isDotted_iff.1 hquad, by simpa using hrun⟩, by simp, hsize⟩
        apply String.toList_injective
        rw [← join_pieces '/' entry.toList, hpieces]
        simp [join]
      · exact absurd h (by simp)
    · exact absurd h (by simp)
  · rintro ⟨l, hl, rfl, hsize⟩
    rw [network?, hl.pieces_eq]
    exact if_pos ⟨isDotted_iff.2 hl.quad, hl.run, hsize⟩

lemma network?_eq_none_iff :
    network? entry.toList = none ↔
      ∀ n l, IsNetwork entry n l → UInt32.size ≤ Decimal.value l.toList := by
  rw [Option.eq_none_iff_forall_ne_some]
  constructor
  · intro h n l hl
    by_contra hsize
    exact h _ (network?_eq_some_iff.2 ⟨l, hl, rfl, by omega⟩)
  · rintro h ⟨n, k⟩ hsome
    rw [← String.toList_ofList (l := n), network?_eq_some_iff] at hsome
    obtain ⟨l, hl, rfl, hsize⟩ := hsome
    have := h _ l hl
    omega

lemma starred?_eq_some_iff : starred? s = some d ↔ s = '*' :: '.' :: d := by
  unfold starred?
  split
  · simp
  · next hne =>
    constructor
    · simp
    · rintro rfl
      exact absurd rfl (hne d)

/-! ## One condition for each shape -/

lemma IsQuad.network?_eq_none (h : IsQuad s) : network? s = none := by
  rw [network?, pieces_of_not_mem h.slash_not_mem]

lemma standsFor_ofEntry (entry : String) : StandsFor entry (ofEntry entry) := by
  unfold ofEntry
  dsimp only
  split
  · next n k hnetwork =>
    rw [← String.toList_ofList (l := n), network?_eq_some_iff] at hnetwork
    obtain ⟨l, hl, rfl, hsize⟩ := hnetwork
    exact .network hl hsize
  · next hnetwork =>
    split
    · next hquad => exact .address (isDotted_iff.1 hquad)
    · next hquad =>
      split
      · next d hd =>
        have hentry : entry = "*." ++ String.ofList d := by
          apply String.toList_injective
          simp [starred?_eq_some_iff.1 hd]
        rw [hentry]
        exact .star _
      · next hstar =>
        refine .other (network?_eq_none_iff.1 hnetwork) (fun h => hquad (isDotted_iff.2 h)) ?_
        rintro d rfl
        simp [starred?] at hstar

/-- An entry stands for one condition only, the one that is made of it. -/
theorem ofEntry_eq_iff : ofEntry entry = c ↔ StandsFor entry c := by
  constructor
  · rintro rfl
    exact standsFor_ofEntry entry
  · intro h
    cases h with
    | @network _ n l h hsize =>
      simp [ofEntry, network?_eq_some_iff.2 ⟨l, h, rfl, hsize⟩]
    | address h => simp [ofEntry, h.network?_eq_none, isDotted_iff.2 h]
    | star d => exact ofEntry_star d
    | other hnetwork hquad hstar =>
      have hquad' : isDotted entry.toList = false := by
        rwa [← Bool.not_eq_true, isDotted_iff]
      have hstar' : starred? entry.toList = none := by
        rw [Option.eq_none_iff_forall_ne_some]
        intro d hd
        refine hstar (String.ofList d) (String.toList_injective ?_)
        simp [starred?_eq_some_iff.1 hd]
      simp [ofEntry, network?_eq_none_iff.2 hnetwork, hquad', hstar']

/-! ## Entries that look like nothing in particular -/

lemma IsNetwork.mem (h : IsNetwork entry n l) {x : Char} (hx : x ∈ entry.toList) :
    x = '/' ∨ x = '.' ∨ x.isDigit = true := by
  rw [← join_pieces '/' entry.toList, h.pieces_eq] at hx
  rcases mem_join hx with hslash | ⟨part, hpart, hx⟩
  · exact .inl (List.mem_singleton.1 hslash)
  · rcases List.mem_pair.1 hpart with rfl | rfl
    · exact .inr (h.quad.mem hx)
    · exact .inr (.inr (Decimal.isDigit_of_isRun h.run x hx))

/-- A text is cut in one way only. -/
lemma IsNetwork.unique {n' l' : String} (h : IsNetwork entry n l) (h' : IsNetwork entry n' l') :
    n = n' ∧ l = l' := by
  have hpieces := h.pieces_eq.symm.trans h'.pieces_eq
  simp only [List.cons.injEq, String.toList_inj, and_true] at hpieces
  exact hpieces

/-- A character that is no digit, no dot and no slash leaves only the star and its domain. -/
lemma standsFor_domain_of_mem {x : Char} (hx : x ∈ entry.toList) (hdigit : x.isDigit = false)
    (hdot : x ≠ '.') (hslash : x ≠ '/') (hstar : ∀ d, entry ≠ "*." ++ d) :
    StandsFor entry (domain entry) := by
  refine .other (fun n l h => ?_) (fun h => ?_) hstar
  · rcases h.mem hx with h | h | h
    · exact absurd h hslash
    · exact absurd h hdot
    · simp [hdigit] at h
  · rcases h.mem hx with h | h
    · exact absurd h hdot
    · simp [hdigit] at h

/-- A network whose length takes more than 32 bits is no network. -/
lemma IsNetwork.standsFor_domain (h : IsNetwork entry n l)
    (hsize : UInt32.size ≤ Decimal.value l.toList) : StandsFor entry (domain entry) := by
  have hslash : '/' ∈ entry.toList := by simp [h.eq]
  refine .other (fun n' l' h' => ?_) (fun hquad => hquad.slash_not_mem hslash) ?_
  · obtain ⟨-, rfl⟩ := h.unique h'
    exact hsize
  · rintro d rfl
    have hstar : '*' ∈ ("*." ++ d).toList := by simp
    rcases h.mem hstar with h | h | h <;> exact absurd h (by decide)

/-- The shape of an entry decides what it stands for. It is a condition on a network exactly if it
consists of four runs of digits with dots between them, a slash and a run of digits whose value has
32 bits; on one host exactly if it consists of four runs of digits with dots between them; on the
domains behind a star exactly if it begins with a star and a dot; and in all other cases on the text
itself, such as with too long a number behind the slash, or with a character anywhere that is no
ASCII digit, dot or slash. -/
theorem ofEntry_classifies (entry : String) :
    (∀ n k, ofEntry entry = cidr n (Netmask.text k) ↔
      ∃ l, IsNetwork entry n l ∧ Decimal.value l.toList = k ∧ k < UInt32.size) ∧
    (∀ n mask, ofEntry entry = cidr n mask → ∃ k, mask = Netmask.text k) ∧
    (∀ h, ofEntry entry = literal h ↔ h = entry ∧ IsQuad entry.toList) ∧
    (∀ d, ofEntry entry = wildcard d ↔ entry = "*." ++ d) ∧
    (∀ t, ofEntry entry = domain t ↔ t = entry ∧
      (∀ n l, IsNetwork entry n l → UInt32.size ≤ Decimal.value l.toList) ∧
      ¬ IsQuad entry.toList ∧ ∀ d, entry ≠ "*." ++ d) ∧
    (∀ n l, IsNetwork entry n l → UInt32.size ≤ Decimal.value l.toList →
      ofEntry entry = domain entry) ∧
    ∀ x ∈ entry.toList, x.isDigit = false → x ≠ '.' → x ≠ '/' → (∀ d, entry ≠ "*." ++ d) →
      ofEntry entry = domain entry := by
  simp only [ofEntry_eq_iff]
  refine ⟨fun n k => ?_, fun n mask h => ?_, fun h => ?_, fun d => ?_, fun t => ?_,
    fun n l h hsize => h.standsFor_domain hsize,
    fun x hx hdigit hdot hslash hstar => standsFor_domain_of_mem hx hdigit hdot hslash hstar⟩
  · constructor
    · generalize hmask : Netmask.text k = mask
      rintro (⟨h, hsize⟩ | _ | _ | _)
      obtain rfl := Netmask.text_inj hmask
      exact ⟨_, h, rfl, hsize⟩
    · rintro ⟨l, h, rfl, hsize⟩
      exact .network h hsize
  · cases h with
    | network h hsize => exact ⟨_, rfl⟩
  · constructor
    · rintro (_ | h | _ | _)
      exact ⟨rfl, h⟩
    · rintro ⟨rfl, h⟩
      exact .address h
  · constructor
    · rintro (_ | _ | _ | _)
      rfl
    · rintro rfl
      exact .star d
  · constructor
    · rintro (_ | _ | _ | ⟨hnetwork, hquad, hstar⟩)
      exact ⟨rfl, hnetwork, hquad, hstar⟩
    · rintro ⟨rfl, hnetwork, hquad, hstar⟩
      exact .other hnetwork hquad hstar

/-- The least length that is too long, with and without superfluous zeros. -/
example : ∀ entry ∈ ["10.0.0.0/4294967296", "10.0.0.0/004294967296"],
    ofEntry entry = domain entry := by decide

end Condition

end ProxyProfiles
