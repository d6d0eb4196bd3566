import ProxyProfiles.Profile.Protocol
import Mathlib.Tactic.Lemma
/-!
# Texts that differ in the case of letters

Only letters have a case. So a character that is no letter is equal to another one up to case only
if it is the same character, and a text is equal to no other text up to case exactly if it has no
letters.
-/

namespace ProxyProfiles

variable {c d : Char}

/-- Only letters become letters in lower case. -/
lemma eq_of_toLower_eq (h : c.toLower = d) (hd : d.isLower = false) : c = d := by
  unfold Char.toLower at h
  split at h
  · next hc =>
    have hlow := hc.1
    have hhigh := hc.2
    have hval := congrArg UInt32.toNat (congrArg Char.val h)
    simp only [ge_iff_le, UInt32.le_iff_toNat_le, UInt32.toNat_add] at hval hlow hhigh
    have hout : (decide (d.val ≥ 97) && decide (d.val ≤ 122)) = false := hd
    simp only [ge_iff_le, UInt32.le_iff_toNat_le, Bool.and_eq_false_iff,
      decide_eq_false_iff_not] at hout
    simp at hval hlow hhigh hout
    omega
  · exact h

/-- What is no letter is neither an upper case letter nor a lower case letter. -/
lemma isUpper_isLower_of_isAlpha (h : c.isAlpha = false) :
    c.isUpper = false ∧ c.isLower = false :=
  Bool.or_eq_false_iff.1 h

lemma isAlpha_of_isDigit {x : Char} (hx : x.isDigit = true) : x.isAlpha = false := by
  simp only [Char.isDigit, Bool.and_eq_true, decide_eq_true_eq, ge_iff_le,
    UInt32.le_iff_toNat_le] at hx
  -- digits stand in front of all letters
  have hupper : ¬ (x.val ≥ 65 ∧ x.val ≤ 90) := by
    simp only [ge_iff_le, UInt32.le_iff_toNat_le]
    simp at hx ⊢
    omega
  have hlower : ¬ x.val ≥ 97 := by
    simp only [ge_iff_le, UInt32.le_iff_toNat_le]
    simp at hx ⊢
    omega
  exact Bool.or_eq_false_iff.2 ⟨decide_eq_false hupper,
    Bool.and_eq_false_iff.2 (.inl (decide_eq_false hlower))⟩

lemma toLower_of_isAlpha_eq_false (h : c.isAlpha = false) : c.toLower = c := by
  unfold Char.toLower
  split
  · next hc =>
    have hupper : c.isUpper = true := decide_eq_true hc
    rw [(isUpper_isLower_of_isAlpha h).1] at hupper
    contradiction
  · rfl

lemma eq_of_toLower_eq_toLower (hd : d.isAlpha = false) (h : c.toLower = d.toLower) : c = d :=
  eq_of_toLower_eq (h.trans (toLower_of_isAlpha_eq_false hd)) (isUpper_isLower_of_isAlpha hd).2

lemma toNat_lt_of_isAlpha (h : c.isAlpha = true) : c.toNat < 128 := by
  have hle : c.val ≤ 122 := by
    rcases Bool.or_eq_true_iff.1 h with hupper | hlower
    · have hbounds : c.val ≥ 65 ∧ c.val ≤ 90 := of_decide_eq_true hupper
      exact UInt32.le_trans hbounds.2 (by decide)
    · exact of_decide_eq_true (Bool.and_eq_true_iff.1 hlower).2
  exact Nat.lt_of_le_of_lt (UInt32.le_iff_toNat_le.1 hle) (by decide)

/-- Every letter has another case. -/
lemma exists_toLower_eq (h : c.isAlpha = true) : ∃ d, d.toLower = c.toLower ∧ d ≠ c := by
  have hascii : ∀ n < 128, (Char.ofNat n).isAlpha = true →
      ((Char.ofNat n).toLower ≠ Char.ofNat n ∧
        (Char.ofNat n).toLower.toLower = (Char.ofNat n).toLower) ∨
      ((Char.ofNat n).toUpper ≠ Char.ofNat n ∧
        (Char.ofNat n).toUpper.toLower = (Char.ofNat n).toLower) := by decide
  have hc := hascii c.toNat (toNat_lt_of_isAlpha h)
  rw [Char.ofNat_toNat] at hc
  rcases hc h with ⟨hne, heq⟩ | ⟨hne, heq⟩
  · exact ⟨c.toLower, heq, hne⟩
  · exact ⟨c.toUpper, heq, hne⟩

/-! ## Texts -/

/-- Two texts have the same letters, each in either case, and otherwise the same characters. -/
def SameLetters (s t : List Char) : Prop :=
  s.map Char.toLower = t.map Char.toLower

lemma lowerCase_eq_iff {s t : String} :
    lowerCase s = lowerCase t ↔ SameLetters s.toList t.toList :=
  ⟨fun h => String.ofList_injective h, congrArg String.ofList⟩

namespace SameLetters

variable {s t u : List Char}

lemma symm (h : SameLetters s t) : SameLetters t s := Eq.symm h

lemma length_eq (h : SameLetters s t) : s.length = t.length := by
  simpa using congrArg List.length h

lemma cons (c : Char) (h : SameLetters s t) : SameLetters (c :: s) (c :: t) :=
  congrArg (c.toLower :: ·) h

lemma append_left (u : List Char) (h : SameLetters s t) : SameLetters (u ++ s) (u ++ t) := by
  rw [SameLetters, List.map_append, List.map_append, h]

/-- A text falls into the same parts in another spelling. -/
lemma exists_append (h : SameLetters s (t ++ u)) :
    ∃ t' u', s = t' ++ u' ∧ SameLetters t' t ∧ SameLetters u' u := by
  rw [SameLetters, List.map_append, List.map_eq_append_iff] at h
  exact h

/-- In another spelling, a text ends in another spelling of what it ends in. -/
lemma exists_suffix (h : SameLetters s t) (hu : u <:+ t) : ∃ u', u' <:+ s ∧ SameLetters u' u := by
  obtain ⟨l, rfl⟩ := hu
  obtain ⟨l', u', rfl, -, hu'⟩ := h.exists_append
  exact ⟨u', List.suffix_append l' u', hu'⟩

/-- For another spelling of what a text ends in, there is another spelling of the text. -/
lemma exists_of_suffix (h : SameLetters s u) (hu : u <:+ t) :
    ∃ t', s <:+ t' ∧ SameLetters t' t := by
  obtain ⟨l, rfl⟩ := hu
  exact ⟨l ++ s, List.suffix_append l s, h.append_left l⟩

/-- A character that is no letter stays what it is in another spelling. -/
lemma exists_cons (h : SameLetters s (d :: t)) (hd : d.isAlpha = false) :
    ∃ t', s = d :: t' ∧ SameLetters t' t := by
  rw [SameLetters, List.map_cons, List.map_eq_cons_iff] at h
  obtain ⟨c, t', rfl, hc, ht⟩ := h
  exact ⟨t', by rw [eq_of_toLower_eq_toLower hd hc], ht⟩

/-- A text without letters has no other spelling. -/
lemma eq_of_isAlpha (h : SameLetters s t) (ht : ∀ c ∈ t, c.isAlpha = false) : s = t := by
  induction t generalizing s with
  | nil => exact List.map_eq_nil_iff.1 h
  | cons d t ih =>
    obtain ⟨t', rfl, htail⟩ := h.exists_cons (ht d List.mem_cons_self)
    rw [ih htail fun c hc => ht c (List.mem_cons_of_mem d hc)]

/-- A text with a letter has another spelling. -/
lemma exists_ne (h : ∃ c ∈ t, c.isAlpha = true) : ∃ s, SameLetters s t ∧ s ≠ t := by
  obtain ⟨c, hc, halpha⟩ := h
  obtain ⟨u, v, rfl⟩ := List.append_of_mem hc
  obtain ⟨d, hcase, hne⟩ := exists_toLower_eq halpha
  refine ⟨u ++ d :: v, append_left u ?_, by simpa using hne⟩
  rw [SameLetters, List.map_cons, List.map_cons, hcase]

end SameLetters

/-- A text without letters is equal to no other text up to case. -/
lemma eq_of_lowerCase_eq {s t : String} (ht : ∀ c ∈ t.toList, c.isAlpha = false)
    (h : lowerCase s = lowerCase t) : s = t :=
  String.toList_injective ((lowerCase_eq_iff.1 h).eq_of_isAlpha ht)

end ProxyProfiles
