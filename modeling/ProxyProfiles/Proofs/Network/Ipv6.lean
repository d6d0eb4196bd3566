import ProxyProfiles.Network.Ipv6
import ProxyProfiles.Proofs.Network.Ipv4
/-!
# Which texts are addresses of eight groups

`Ipv6.Spells` says in which ways an address may be written:

* `IsGroup`: a group is one to four hexadecimal digits;
* `SpellsGroups`: groups have colons between them, and the last two may be written as an address of
  four octets;
* an address is eight groups, or it is two runs of groups, perhaps empty, with two colons between
  them that stand for the groups of zero that are missing. Octets may only end the second run.

The reader tries octets before a group and takes as many groups as it finds. That it still finds all
spellings is `read_append`, and that it finds nothing else is `spells_of_read`. Both follow from the
same about its loop over the groups.
-/

namespace ProxyProfiles.Network

open Text

namespace Ipv6

/-- A run of hexadecimal digits that is a group. -/
structure IsGroup (run : List Char) (g : Nat) : Prop where
  value : Hexadecimal.value? run = some g
  pos : 1 ≤ run.length
  short : run.length ≤ 4

/-- The texts of one or more groups. `octets` tells whether they end in four octets. -/
inductive SpellsGroups (zeros : Bool) : List Nat → Bool → List Char → Prop
  /-- A single group. -/
  | group {g : Nat} {run : List Char} (h : IsGroup run g) : SpellsGroups zeros [g] false run
  /-- Two groups, written as four octets. -/
  | octets {x : Ipv4} {t : List Char} (h : Ipv4.Spells zeros x t) :
    SpellsGroups zeros (tailGroups x) true t
  /-- A group in front of others. -/
  | cons {g : Nat} {run : List Char} {gs : List Nat} {octets : Bool} {t : List Char}
      (h : IsGroup run g) (hs : SpellsGroups zeros gs octets t) :
    SpellsGroups zeros (g :: gs) octets (run ++ ':' :: t)

/-- The texts of any number of groups. -/
inductive SpellsRun (zeros : Bool) : List Nat → Bool → List Char → Prop
  /-- No group at all. -/
  | none : SpellsRun zeros [] false []
  /-- One group or more. -/
  | some {gs : List Nat} {octets : Bool} {t : List Char} (h : SpellsGroups zeros gs octets t) :
    SpellsRun zeros gs octets t

/-- The texts that an address may be written as. -/
inductive Spells (sp : Spelling) : Ipv6 → List Char → Prop
  /-- Eight groups. -/
  | full {gs : List Nat} {octets : Bool} {t : List Char} (h : SpellsGroups sp.zeros gs octets t)
      (hlength : gs.length = 8) :
    Spells sp (ofGroups gs) t
  /-- Groups on either side of two colons, which stand for those that are missing. There is one at
  least, unless the spelling allows them to stand for none. -/
  | gap {hs gs : List Nat} {octets : Bool} {t u : List Char}
      (hhead : SpellsRun sp.zeros hs false t) (htail : SpellsRun sp.zeros gs octets u)
      (hlt : hs.length < 8)
      (hlength : hs.length + gs.length ≤ if sp.emptyGap then 8 else 7) :
    Spells sp (ofGroups (hs ++ List.replicate (8 - hs.length - gs.length) 0 ++ gs))
      (t ++ ':' :: ':' :: u)

variable {sp : Spelling} {zeros octets first : Bool} {g room : Nat} {gs : List Nat} {x : Ipv4}
  {y : Ipv6} {run s t u rest : List Char}

/-! ## Groups -/

/-- A text that no hexadecimal digit begins. -/
def NoHexHead (rest : List Char) : Prop :=
  ∀ c ∈ rest.head?, Hexadecimal.isDigit c = false

lemma noHexHead_cons {c : Char} (hc : Hexadecimal.isDigit c = false) (s : List Char) :
    NoHexHead (c :: s) := by
  simpa [NoHexHead] using hc

lemma isDigit_of_decimal {c : Char} (h : c.isDigit = true) : Hexadecimal.isDigit c = true := by
  have hc : '0' ≤ c ∧ c ≤ '9' := by simpa [Char.isDigit, Char.le_def] using h
  simp [Hexadecimal.isDigit, Hexadecimal.digit?, hc]

lemma NoHexHead.noDigitHead (h : NoHexHead rest) : NoDigitHead rest := by
  intro c hc
  rw [← Bool.not_eq_true]
  intro hdigit
  have hhex := h c hc
  rw [isDigit_of_decimal hdigit] at hhex
  contradiction

lemma isDigit_of_value? (h : Hexadecimal.value? run = some g) :
    ∀ c ∈ run, Hexadecimal.isDigit c = true := by
  rw [Hexadecimal.value?] at h
  generalize 0 = n at h
  induction run generalizing n with
  | nil => simp
  | cons d run ih =>
    rw [List.foldlM_cons, Option.bind_eq_bind, Option.bind_eq_some_iff] at h
    obtain ⟨m, hm, hrest⟩ := h
    obtain ⟨v, hv, -⟩ := Option.map_eq_some_iff.1 hm
    intro c hc
    rcases List.mem_cons.1 hc with rfl | hc
    · simp [Hexadecimal.isDigit, hv]
    · exact ih m hrest c hc

lemma IsGroup.isDigit (h : IsGroup run g) : ∀ c ∈ run, Hexadecimal.isDigit c = true :=
  isDigit_of_value? h.value

/-- A group is read as far as its digits go. -/
lemma readGroup_eq_some_iff :
    readGroup s = some (g, rest) ↔ ∃ run, IsGroup run g ∧ s = run ++ rest ∧ NoHexHead rest := by
  rw [readGroup]
  constructor
  · intro h
    split at h
    · next hlength =>
      obtain ⟨v, hv, heq⟩ := Option.map_eq_some_iff.1 h
      obtain ⟨rfl, rfl⟩ := Prod.mk.inj heq
      exact ⟨_, ⟨hv, hlength.1, hlength.2⟩, List.takeWhile_append_dropWhile.symm,
        fun _ => of_mem_head?_dropWhile⟩
    · exact absurd h (by simp)
  · rintro ⟨run, hrun, rfl, hrest⟩
    obtain ⟨htake, hdrop⟩ := takeWhile_dropWhile_append hrun.isDigit hrest
    simp [htake, hdrop, hrun.value, hrun.pos, hrun.short]

lemma readGroup_append (h : IsGroup run g) (hrest : NoHexHead rest) :
    readGroup (run ++ rest) = some (g, rest) :=
  readGroup_eq_some_iff.2 ⟨run, h, rfl, hrest⟩

lemma readGroup_of_noHexHead (h : NoHexHead s) : readGroup s = none := by
  have hnil : s.takeWhile Hexadecimal.isDigit = [] := by
    rcases s with _ | ⟨c, s⟩
    · rfl
    · simp [h c rfl]
  simp [readGroup, hnil]

/-! ## Groups and octets -/

/-- Octets begin with a run of digits and a dot. -/
lemma exists_of_readIpv4 (h : Ipv4.read zeros s = some (x, rest)) :
    ∃ run s', Decimal.isRun run = true ∧ s = run ++ '.' :: s' := by
  obtain ⟨t, ⟨hruns⟩, rfl, -⟩ := Ipv4.spells_of_read h
  rename_i a b c d
  exact ⟨a, b ++ '.' :: (c ++ '.' :: (d ++ rest)), (hruns a (by simp)).isRun, by simp [join]⟩

lemma readIpv4_of_noHexHead (h : NoHexHead s) : Ipv4.read zeros s = none := by
  rw [Option.eq_none_iff_forall_ne_some]
  rintro ⟨x, rest⟩ hread
  obtain ⟨run, s', hrun, rfl⟩ := exists_of_readIpv4 hread
  obtain ⟨hne, hdigits⟩ := Decimal.isRun_iff.1 hrun
  obtain ⟨c, run, rfl⟩ := List.exists_cons_of_ne_nil hne
  have hc := h c (by simp)
  rw [isDigit_of_decimal (hdigits c (by simp))] at hc
  contradiction

/-- A group with no dot behind it does not begin octets. -/
lemma readIpv4_group (h : IsGroup run g) (hrest : NoHexHead rest) (hdot : rest.head? ≠ some '.') :
    Ipv4.read zeros (run ++ rest) = none := by
  rw [Option.eq_none_iff_forall_ne_some]
  rintro ⟨x, r⟩ hread
  obtain ⟨run', s', hrun', heq⟩ := exists_of_readIpv4 hread
  have hdigits' : ∀ c ∈ run', Hexadecimal.isDigit c = true :=
    fun c hc => isDigit_of_decimal (Decimal.isDigit_of_isRun hrun' c hc)
  have hbehind : rest = '.' :: s' := by
    rw [← (takeWhile_dropWhile_append h.isDigit hrest).2, heq,
      (takeWhile_dropWhile_append hdigits' (noHexHead_cons (by decide) s')).2]
  exact hdot (by rw [hbehind]; rfl)

/-! ## The loop over the groups -/

/-- A text behind the separator that the first group does without. -/
def behind (first : Bool) (t : List Char) : List Char :=
  if first then t else ':' :: t

/-- What may follow the groups of an address: no digit, no dot, and no colon with a digit behind
it. -/
structure Ends (rest : List Char) : Prop where
  digit : NoHexHead rest
  dot : rest.head? ≠ some '.'
  colon : ∀ u, rest = ':' :: u → NoHexHead u

/-- Octets are looked for only where there is room for two groups. -/
lemma noOctets_iff : (if room = 0 then none else Ipv4.read zeros t) = none ↔
    room = 0 ∨ Ipv4.read zeros t = none := by
  by_cases h : room = 0 <;> simp [h]

lemma readGroups_octets (hroom : room ≠ 0) (h : Ipv4.read sp.zeros t = some (x, rest)) :
    readGroups sp (room + 1) first (behind first t) = ⟨tailGroups x, true, rest⟩ := by
  cases first <;> simp [readGroups, behind, hroom, h]

lemma readGroups_group (hoctets : room = 0 ∨ Ipv4.read sp.zeros t = none)
    (h : readGroup t = some (g, rest)) :
    readGroups sp (room + 1) first (behind first t) =
      ⟨g :: (readGroups sp room false rest).groups, (readGroups sp room false rest).decimalTail,
        (readGroups sp room false rest).rest⟩ := by
  cases first <;> simp [readGroups, behind, noOctets_iff.2 hoctets, h]

lemma readGroups_stop (hoctets : room = 0 ∨ Ipv4.read sp.zeros t = none)
    (h : readGroup t = none) :
    readGroups sp (room + 1) first (behind first t) = ⟨[], false, behind first t⟩ := by
  cases first <;> simp [readGroups, behind, noOctets_iff.2 hoctets, h]

lemma readGroups_of_noHexHead (h : NoHexHead t) :
    readGroups sp room first (behind first t) = ⟨[], false, behind first t⟩ := by
  cases room with
  | zero => rfl
  | succ room => exact readGroups_stop (.inr (readIpv4_of_noHexHead h)) (readGroup_of_noHexHead h)

/-- No further group is found where no colon stands. -/
lemma readGroups_of_no_colon (h : ¬ ∃ u, s = ':' :: u) :
    readGroups sp room false s = ⟨[], false, s⟩ := by
  have hskip : Ipv4.skipChar ':' s = none := by
    rw [Option.eq_none_iff_forall_ne_some]
    exact fun u hu => h ⟨u, Ipv4.skipChar_eq_some_iff.1 hu⟩
  cases room with
  | zero => rfl
  | succ room => simp [readGroups, hskip]

lemma readGroups_of_ends (h : Ends rest) : readGroups sp room false rest = ⟨[], false, rest⟩ := by
  by_cases hcolon : ∃ u, rest = ':' :: u
  · obtain ⟨u, rfl⟩ := hcolon
    exact readGroups_of_noHexHead (h.colon u rfl)
  · exact readGroups_of_no_colon hcolon

/-- Groups are read from each of their texts if there is room for them. -/
lemma readGroups_append (h : SpellsGroups sp.zeros gs octets t) (hroom : gs.length ≤ room)
    (hrest : Ends rest) :
    readGroups sp room first (behind first (t ++ rest)) = ⟨gs, octets, rest⟩ := by
  induction h generalizing room first with
  | group h =>
    obtain ⟨room, rfl⟩ := Nat.exists_eq_add_of_le' hroom
    rw [List.length_singleton, readGroups_group (.inr (readIpv4_group h hrest.digit hrest.dot))
      (readGroup_append h hrest.digit), readGroups_of_ends hrest]
  | octets h =>
    obtain ⟨room, rfl⟩ := Nat.exists_eq_add_of_le' hroom
    exact readGroups_octets (by simp) (Ipv4.read_append h hrest.digit.noDigitHead)
  | @cons g run gs octets t h hs ih =>
    obtain ⟨room, rfl⟩ := Nat.exists_eq_add_of_le' (Nat.one_le_of_lt hroom)
    have hcolon : NoHexHead (':' :: (t ++ rest)) := noHexHead_cons (by decide) _
    have hothers : readGroups sp room false (':' :: (t ++ rest)) = ⟨gs, octets, rest⟩ :=
      ih (by simpa using hroom)
    rw [List.append_assoc, List.cons_append,
      readGroups_group (.inr (readIpv4_group h hcolon (by simp))) (readGroup_append h hcolon),
      hothers]

/-- What the loop takes for groups is a text of them. -/
lemma spells_of_readGroups (sp : Spelling) (room : Nat) (first : Bool) (s : List Char) :
    (readGroups sp room first s = ⟨[], false, s⟩) ∨
      ∃ gs octets t rest, readGroups sp room first s = ⟨gs, octets, rest⟩ ∧ gs.length ≤ room ∧
        SpellsGroups sp.zeros gs octets t ∧ s = behind first (t ++ rest) := by
  induction room generalizing first s with
  | zero => exact .inl rfl
  | succ room ih =>
    by_cases hbehind : ∃ t, s = behind first t
    · obtain ⟨t, rfl⟩ := hbehind
      cases hoctets : (if room = 0 then none else Ipv4.read sp.zeros t) with
      | some p =>
        obtain ⟨x, rest⟩ := p
        have hroom : room ≠ 0 := by
          rintro rfl
          simp at hoctets
        rw [if_neg hroom] at hoctets
        obtain ⟨u, hu, rfl, -⟩ := Ipv4.spells_of_read hoctets
        refine .inr ⟨_, _, u, rest, readGroups_octets hroom hoctets, ?_, .octets hu, rfl⟩
        simp only [tailGroups, List.length_cons, List.length_nil]
        omega
      | none =>
        have hnone := noOctets_iff.1 hoctets
        cases hgroup : readGroup t with
        | none => exact .inl (readGroups_stop hnone hgroup)
        | some p =>
          obtain ⟨g, r⟩ := p
          obtain ⟨run, hrun, rfl, -⟩ := readGroup_eq_some_iff.1 hgroup
          have hread : readGroups sp (room + 1) first (behind first (run ++ r)) = _ :=
            readGroups_group hnone hgroup
          right
          rcases ih false r with hempty | ⟨gs, octets, u, rest, hothers, hlength, hu, rfl⟩
          · rw [hempty] at hread
            exact ⟨_, _, run, r, hread, by simp, .group hrun, rfl⟩
          · rw [hothers] at hread
            exact ⟨_, _, run ++ ':' :: u, rest, hread, by simpa using hlength, .cons hrun hu,
              by simp [behind]⟩
    · left
      cases first with
      | true => exact absurd ⟨s, rfl⟩ hbehind
      | false => exact readGroups_of_no_colon hbehind

/-- The same for a run of groups, which may be empty. -/
lemma readGroups_run_append (h : SpellsRun sp.zeros gs octets t) (hroom : gs.length ≤ room)
    (hrest : Ends rest) : readGroups sp room true (t ++ rest) = ⟨gs, octets, rest⟩ := by
  cases h with
  | none => exact readGroups_of_noHexHead hrest.digit
  | some h => exact readGroups_append h hroom hrest

lemma exists_run_of_readGroups (sp : Spelling) (room : Nat) (s : List Char) :
    ∃ gs octets t rest, readGroups sp room true s = ⟨gs, octets, rest⟩ ∧ gs.length ≤ room ∧
      SpellsRun sp.zeros gs octets t ∧ s = t ++ rest := by
  rcases spells_of_readGroups sp room true s with h | ⟨gs, octets, t, rest, h, hlength, ht, hs⟩
  · exact ⟨[], false, [], s, h, Nat.zero_le _, .none, rfl⟩
  · exact ⟨gs, octets, t, rest, h, hlength, .some ht, hs⟩

/-! ## Addresses -/

/-- Two colons may follow a run of groups. -/
lemma ends_colons (s : List Char) : Ends (':' :: ':' :: s) where
  digit := noHexHead_cons (by decide) _
  dot := by simp
  colon u hu := by
    obtain rfl := (List.cons.inj hu).2
    exact noHexHead_cons (by decide) _

/-- The room behind two colons. -/
lemma length_le_room {m n : Nat} {b : Bool} (hm : m < 8) :
    n ≤ (if b then 8 - m else 8 - m - 1) ↔ m + n ≤ if b then 8 else 7 := by
  cases b
  · simp only [Bool.false_eq_true, if_false]
    omega
  · simp only [if_true]
    omega

/-- An address is read back from each of its spellings. -/
lemma read_append (h : Spells sp y t) (hrest : Ends rest) :
    read sp (t ++ rest) = some (y, rest) := by
  cases h with
  | full h hlength =>
    have hread : readGroups sp 8 true (t ++ rest) = ⟨_, _, rest⟩ :=
      readGroups_run_append (.some h) (Nat.le_of_eq hlength) hrest
    simp [read, hread, hlength]
  | @gap hs gs octets t u hhead htail hlt hlength =>
    have htext : t ++ ':' :: ':' :: u ++ rest = t ++ ':' :: ':' :: (u ++ rest) := by simp
    have hread := readGroups_run_append hhead (Nat.le_of_lt hlt) (ends_colons (u ++ rest))
    have hread' := readGroups_run_append htail ((length_le_room hlt).2 hlength) hrest
    rw [htext]
    simp [read, hread, hread', Nat.ne_of_lt hlt]

/-- Only what is spelt is read. -/
lemma spells_of_read (h : read sp s = some (y, rest)) : ∃ t, Spells sp y t ∧ s = t ++ rest := by
  obtain ⟨hs, headOctets, t, r, hread, hle, ht, rfl⟩ := exists_run_of_readGroups sp 8 s
  rw [read] at h
  simp only [hread] at h
  rcases Nat.lt_or_eq_of_le hle with hlt | hlength
  · cases headOctets with
    | true => simp [Nat.ne_of_lt hlt] at h
    | false =>
      simp only [Nat.ne_of_lt hlt, if_false, Bool.false_eq_true, Option.bind_eq_bind,
        Option.bind_eq_some_iff, Ipv4.skipChar_eq_some_iff, Option.pure_def] at h
      obtain ⟨_, rfl, s, rfl, h⟩ := h
      obtain ⟨gs, octets, u, r, hread', hle', hu, rfl⟩ := exists_run_of_readGroups sp
        (if sp.emptyGap then 8 - hs.length else 8 - hs.length - 1) s
      rw [hread', Option.some.injEq, Prod.mk.injEq] at h
      obtain ⟨rfl, rfl⟩ := h
      exact ⟨t ++ ':' :: ':' :: u, .gap ht hu hlt ((length_le_room hlt).1 hle'), by simp⟩
  · simp only [hlength, if_true, Option.pure_def, Option.some.injEq, Prod.mk.injEq] at h
    obtain ⟨rfl, rfl⟩ := h
    cases ht with
    | none => simp at hlength
    | some ht => exact ⟨t, .full ht hlength, rfl⟩

/-- No address of eight groups begins with four octets. -/
lemma readIpv4_of_read (h : read sp s = some (y, rest)) : Ipv4.read sp.zeros s = none := by
  rw [Option.eq_none_iff_forall_ne_some]
  rintro ⟨x, r⟩ hread
  have hhead : readGroups sp 8 true s = ⟨tailGroups x, true, r⟩ :=
    readGroups_octets (by simp) hread
  simp [read, hhead, tailGroups] at h

end Ipv6

end ProxyProfiles.Network
