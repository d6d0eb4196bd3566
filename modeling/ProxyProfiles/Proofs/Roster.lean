import ProxyProfiles.Registry
import Mathlib.Tactic.Lemma
/-!
# Changing a roster

What looking up an id finds after a profile was added, replaced or taken out. Of the profiles
with one id only the first counts, so ids need not be distinct for any of this.
-/

namespace ProxyProfiles

namespace Profile

@[simp] lemma revised_id (stored : Profile) (id : String) (d : Draft) :
    (stored.revised id d).id = id := by
  unfold revised
  dsimp only
  split <;> rfl

end Profile

namespace Roster

variable {r : Roster} {ps : List Profile} {p q : Profile} {id id' : String}

lemma id_of_find? (h : r.find? id = some p) : p.id = id := by
  simpa using List.find?_some h

lemma mem_of_find? (h : r.find? id = some p) : p ∈ r.profiles :=
  List.mem_of_find?_eq_some h

lemma active?_of_activeId (h : r.activeId = some id) : r.active? = r.find? id := by
  simp [active?, h]

lemma active?_of_activeId_none (h : r.activeId = none) : r.active? = none := by
  simp [active?, h]

lemma find?_append (h : r.find? id = some q) :
    { r with profiles := r.profiles ++ ps }.find? id = some q := by
  have h' : r.profiles.find? (fun p => p.id = id) = some q := h
  simp [find?, List.find?_append, h']

/-- The profile that was put in place of another one is found. -/
lemma find?_replace_self (hp : p.id = id) (h : r.find? id = some q) :
    { r with profiles := replace id p r.profiles }.find? id = some p := by
  obtain ⟨ps, a⟩ := r
  simp only [find?] at h ⊢
  induction ps with
  | nil => simp at h
  | cons p' ps ih =>
    by_cases hp' : p'.id = id
    · simp [replace, hp', hp]
    · simp only [List.find?_cons, hp', decide_false] at h
      simpa [replace, hp'] using ih h

lemma find?_replace_of_ne (hp : p.id = id) (hne : id' ≠ id) :
    { r with profiles := replace id p r.profiles }.find? id' = r.find? id' := by
  obtain ⟨ps, a⟩ := r
  simp only [find?]
  induction ps with
  | nil => rfl
  | cons p' ps ih =>
    by_cases hp' : p'.id = id
    · simp [replace, hp', hp, hne.symm]
    · simp [replace, hp', List.find?_cons, ih]

lemma find?_without_of_ne (hne : id' ≠ id) :
    { r with profiles := without id r.profiles }.find? id' = r.find? id' := by
  obtain ⟨ps, a⟩ := r
  simp only [find?]
  induction ps with
  | nil => rfl
  | cons p' ps ih =>
    by_cases hp' : p'.id = id
    · simp [without, hp', hne.symm]
    · simp [without, hp', List.find?_cons, ih]

/-- Only the same profile can be put in place of another one without a trace. -/
lemma replace_eq_self_iff (h : r.find? id = some q) :
    replace id p r.profiles = r.profiles ↔ p = q := by
  obtain ⟨ps, a⟩ := r
  simp only [find?] at h ⊢
  induction ps with
  | nil => simp at h
  | cons p' ps ih =>
    by_cases hp' : p'.id = id
    · simp only [List.find?_cons, hp', decide_true, Option.some.injEq] at h
      subst h
      simp [replace, hp']
    · simp only [List.find?_cons, hp', decide_false] at h
      simpa [replace, hp'] using ih h

/-- A profile cannot be taken out without a trace. -/
lemma without_ne_self (h : r.find? id = some q) : without id r.profiles ≠ r.profiles := by
  obtain ⟨ps, a⟩ := r
  simp only [find?] at h ⊢
  induction ps with
  | nil => simp at h
  | cons p' ps ih =>
    by_cases hp' : p'.id = id
    · simp only [without, hp', if_true]
      exact List.ne_cons_self
    · simp only [List.find?_cons, hp', decide_false] at h
      simpa [without, hp'] using ih h

end Roster

end ProxyProfiles
