import ProxyProfiles.Text.Blank
import ProxyProfiles.Text.Split
import Mathlib.Data.List.DropRight
import Mathlib.Tactic.Lemma
/-!
# Trimming

Trimming takes away the blanks at the two ends of a text and nothing else. What is left has no blank
at its ends (`isTrimmed_trim`), what is taken away is blank (`exists_padded`), and a text without
blanks at its ends is what is left if blanks are put around it (`trim_padded`).
-/

namespace ProxyProfiles.Text

/-- A text with no blank at its ends. -/
structure IsTrimmed (s : List Char) : Prop where
  head : ∀ c ∈ s.head?, isBlank c = false
  last : ∀ c ∈ s.getLast?, isBlank c = false

variable {s w w' : List Char}

lemma trim_eq (s : List Char) : trim s = (s.dropWhile isBlank).rdropWhile isBlank := rfl

lemma isTrimmed_trim (s : List Char) : IsTrimmed (trim s) where
  head c hc := by
    obtain ⟨rest, hrest⟩ := List.rdropWhile_prefix isBlank (s.dropWhile isBlank)
    refine of_mem_head?_dropWhile (s := s) ?_
    rw [← hrest, List.head?_append, ← trim_eq, Option.mem_def.1 hc]
    rfl
  last c hc := by
    rw [trim, List.getLast?_reverse] at hc
    exact of_mem_head?_dropWhile hc

/-- Only blanks are taken away. -/
lemma exists_padded (s : List Char) :
    ∃ w w', (∀ c ∈ w, isBlank c = true) ∧ (∀ c ∈ w', isBlank c = true) ∧
      s = w ++ (trim s ++ w') := by
  refine ⟨s.takeWhile isBlank, (s.dropWhile isBlank).rtakeWhile isBlank,
    fun _ => List.mem_takeWhile_imp, fun _ => List.mem_rtakeWhile_imp, ?_⟩
  rw [trim_eq, List.rdropWhile_append_rtakeWhile, List.takeWhile_append_dropWhile]

lemma trim_of_blank (hw : ∀ c ∈ w, isBlank c = true) : trim w = [] := by
  rw [trim_eq, List.dropWhile_eq_nil_iff.2 hw, List.rdropWhile_nil]

/-- All blanks around a text are taken away. -/
lemma trim_padded (hw : ∀ c ∈ w, isBlank c = true) (hs : IsTrimmed s)
    (hw' : ∀ c ∈ w', isBlank c = true) : trim (w ++ (s ++ w')) = s := by
  rcases eq_or_ne s [] with rfl | hne
  · exact trim_of_blank (List.forall_mem_append.2 ⟨hw, hw'⟩)
  · have hfront : (w ++ (s ++ w')).dropWhile isBlank = s ++ w' := by
      refine (takeWhile_dropWhile_append hw fun c hc => hs.head c ?_).2
      rwa [List.head?_append_of_ne_nil _ hne] at hc
    have hback : (w'.reverse ++ s.reverse).dropWhile isBlank = s.reverse := by
      refine (takeWhile_dropWhile_append (fun c hc => hw' c (List.mem_reverse.1 hc))
        fun c hc => hs.last c ?_).2
      rwa [List.head?_reverse] at hc
    rw [trim, hfront, List.reverse_append, hback, List.reverse_reverse]

lemma isTrimmed_append_rdropWhile (hne : s ≠ []) (hs : ∀ c ∈ s, isBlank c = false)
    (t : List Char) : IsTrimmed (s ++ t.rdropWhile isBlank) where
  head c hc := by
    rw [List.head?_append_of_ne_nil _ hne] at hc
    exact hs c (List.mem_of_mem_head? hc)
  last c hc := by
    rw [List.getLast?_append, List.rdropWhile, List.getLast?_reverse] at hc
    rcases Option.or_eq_some_iff.1 hc with hc | ⟨-, hc⟩
    · exact of_mem_head?_dropWhile hc
    · exact hs c (List.mem_of_getLast? hc)

/-- Of what stands behind a text without blanks, the blanks at the end are taken away. -/
lemma trim_append (hw : ∀ c ∈ w, isBlank c = true) (hne : s ≠ [])
    (hs : ∀ c ∈ s, isBlank c = false) (hw' : ∀ c ∈ w', isBlank c = true) (t : List Char) :
    trim (w ++ (s ++ (t ++ w'))) = s ++ t.rdropWhile isBlank := by
  have hblank : ∀ c ∈ t.rtakeWhile isBlank ++ w', isBlank c = true :=
    List.forall_mem_append.2 ⟨fun _ => List.mem_rtakeWhile_imp, hw'⟩
  have hsplit : s ++ (t ++ w') =
      (s ++ t.rdropWhile isBlank) ++ (t.rtakeWhile isBlank ++ w') := by
    rw [List.append_assoc, ← List.append_assoc (t.rdropWhile isBlank),
      List.rdropWhile_append_rtakeWhile]
  rw [hsplit, trim_padded hw (isTrimmed_append_rdropWhile hne hs t) hblank]

lemma isTrimmed_iff : IsTrimmed s ↔ trim s = s := by
  constructor
  · intro h
    have hnone : ∀ c ∈ ([] : List Char), isBlank c = true := by simp
    simpa using trim_padded hnone h hnone
  · intro h
    exact h ▸ isTrimmed_trim s

instance : Decidable (IsTrimmed s) :=
  decidable_of_iff (trim s = s) isTrimmed_iff.symm

end ProxyProfiles.Text
