import ProxyProfiles.Roster.Basic
import Mathlib.Data.List.Nodup
import Mathlib.Data.List.Perm.Subperm
import Mathlib.Order.Bounds.Basic
import Mathlib.Tactic.Lemma
/-!
# Ids for new profiles

A new profile gets the first free number from the time of its making on. Nothing bounds the search
for it (`Search`) but the stored profiles: if all numbers that are tried were taken, there would be
more ids than profiles. As many tries as there are profiles are enough therefore, and the number at
which the search ends is the least that is free.
-/

namespace ProxyProfiles.Roster

open Text

variable {taken : String → Bool} {steps n rounds m : Nat}

/-- `Search taken n rounds m` if a search that begins at `n` and goes on to the next number as long
as the number is taken ends at `m`, after so many rounds. -/
inductive Search (taken : String → Bool) : Nat → Nat → Nat → Prop
  | found {n : Nat} (hfree : taken (Decimal.ofNat n) = false) : Search taken n 0 n
  | bump {n rounds m : Nat} (htaken : taken (Decimal.ofNat n) = true)
    (hrest : Search taken (n + 1) rounds m) : Search taken n (rounds + 1) m

namespace Search

/-- Each round goes to the next number. -/
lemma eq_add (h : Search taken n rounds m) : m = n + rounds := by
  induction h with
  | found => rfl
  | bump _ _ ih => omega

lemma free (h : Search taken n rounds m) : taken (Decimal.ofNat m) = false := by
  induction h with
  | found hfree => exact hfree
  | bump _ _ ih => exact ih

/-- All numbers that are passed are taken. -/
lemma taken_of_lt (h : Search taken n rounds m) {k : Nat} (hn : n ≤ k) (hm : k < m) :
    taken (Decimal.ofNat k) = true := by
  induction h with
  | found => omega
  | bump htaken _ ih =>
    rcases Nat.eq_or_lt_of_le hn with rfl | hlt
    · exact htaken
    · exact ih hlt hm

/-- A search ends at the least free number that is not below its beginning. -/
lemma isLeast (h : Search taken n rounds m) :
    IsLeast {k | n ≤ k ∧ taken (Decimal.ofNat k) = false} m := by
  refine ⟨⟨by have := h.eq_add; omega, h.free⟩, fun k hk => ?_⟩
  obtain ⟨hn, hfree⟩ := hk
  by_contra hlt
  have htaken : taken (Decimal.ofNat k) = true := h.taken_of_lt hn (by omega)
  rw [hfree] at htaken
  contradiction

end Search

/-- The search ends within as many rounds as there are tries if one of the numbers tried is free.
That the last of them is not looked at does no harm then. -/
lemma search_firstFree (h : ∃ k ≤ steps, taken (Decimal.ofNat (n + k)) = false) :
    ∃ rounds ≤ steps, Search taken n rounds (firstFree taken steps n) := by
  induction steps generalizing n with
  | zero =>
    obtain ⟨k, hk, hfree⟩ := h
    obtain rfl : k = 0 := by omega
    exact ⟨0, le_rfl, .found hfree⟩
  | succ steps ih =>
    rw [firstFree]
    split
    · next htaken =>
      have hrest : ∃ k ≤ steps, taken (Decimal.ofNat (n + 1 + k)) = false := by
        obtain ⟨k, hk, hfree⟩ := h
        rcases k with _ | k
        · rw [Nat.add_zero, htaken] at hfree
          contradiction
        · exact ⟨k, by omega, by rwa [show n + 1 + k = n + (k + 1) by omega]⟩
      obtain ⟨rounds, hrounds, hsearch⟩ := ih hrest
      exact ⟨rounds + 1, by omega, .bump htaken hsearch⟩
    · next hfree => exact ⟨0, by omega, .found (by simpa using hfree)⟩

/-- There are more numbers to try than ids in a list of as many profiles as tries. -/
lemma exists_free (ids : List String) (n : Nat) :
    ∃ k ≤ ids.length, Decimal.ofNat (n + k) ∉ ids := by
  by_contra hall
  push Not at hall
  let tried := (List.range (ids.length + 1)).map fun k => Decimal.ofNat (n + k)
  have hnodup : tried.Nodup := by
    refine List.nodup_range.map_on fun i _ j _ hij => ?_
    have := Decimal.ofNat_inj hij
    omega
  have hsub : tried ⊆ ids := by
    intro id hid
    obtain ⟨k, hk, rfl⟩ := List.mem_map.1 hid
    exact hall k (by rw [List.mem_range] at hk; omega)
  have hlen := (hnodup.subperm hsub).length_le
  simp only [tried, List.length_map, List.length_range] at hlen
  omega

variable {r : Roster} {id : String}

lemma find?_eq_none_iff : r.find? id = none ↔ id ∉ r.profiles.map Profile.id := by
  simp [find?]

lemma isSome_find?_eq_false_iff :
    (r.find? id).isSome = false ↔ id ∉ r.profiles.map Profile.id := by
  rw [Option.isSome_eq_false_iff, Option.isNone_iff_eq_none, find?_eq_none_iff]

/-- The search among the ids of a roster ends, and the id for a new profile is the number at which
it does. -/
lemma search_freshId (r : Roster) (milliseconds : Nat) :
    ∃ rounds ≤ r.profiles.length, ∃ m, r.freshId milliseconds = Decimal.ofNat m ∧
      Search (fun id => (r.find? id).isSome) milliseconds rounds m := by
  obtain ⟨k, hk, hfree⟩ := exists_free (r.profiles.map Profile.id) milliseconds
  rw [List.length_map] at hk
  have hexists : ∃ k ≤ r.profiles.length,
      (r.find? (Decimal.ofNat (milliseconds + k))).isSome = false :=
    ⟨k, hk, isSome_find?_eq_false_iff.2 hfree⟩
  obtain ⟨rounds, hrounds, hsearch⟩ :=
    @search_firstFree (fun id => (r.find? id).isSome) _ _ hexists
  exact ⟨rounds, hrounds, _, rfl, hsearch⟩

/-- The id for a new profile is not in use. -/
lemma freshId_not_mem (r : Roster) (milliseconds : Nat) :
    r.freshId milliseconds ∉ r.profiles.map Profile.id := by
  obtain ⟨_, _, m, hid, hsearch⟩ := search_freshId r milliseconds
  rw [hid]
  exact isSome_find?_eq_false_iff.1 hsearch.free

/-- The search for an id ends after at most as many rounds as there are stored profiles, whatever
their ids are; the id is the text of the least number from the given time on that is no id of a
stored profile. -/
theorem freshId_least (r : Roster) (milliseconds : Nat) :
    ∃ rounds ≤ r.profiles.length, ∃ m, r.freshId milliseconds = Decimal.ofNat m ∧
      Search (fun id => (r.find? id).isSome) milliseconds rounds m ∧
      IsLeast {k | milliseconds ≤ k ∧ Decimal.ofNat k ∉ r.profiles.map Profile.id} m := by
  obtain ⟨rounds, hrounds, m, hid, hsearch⟩ := search_freshId r milliseconds
  refine ⟨rounds, hrounds, m, hid, hsearch, ?_⟩
  simpa only [isSome_find?_eq_false_iff] using hsearch.isLeast

end ProxyProfiles.Roster
