import ProxyProfiles.Json.Number
import ProxyProfiles.Proofs.Json.Spelling
/-!
# Reading blanks, strings and whole numbers

The smallest parts of a text are read back from every spelling: blanks are passed over, the
characters of a string are those that it was spelt for, and the digits of a whole number of 64 bits
give this number. A number has no end of its own, so something that ends it must follow (`Ends`).
-/

namespace ProxyProfiles.Json

open Text

/-! ## Blanks -/

section Blanks

variable {c : Char} {w s : List Char}

lemma skipSpace_cons (hc : isSpace c = false) : skipSpace (c :: s) = c :: s := by
  rw [skipSpace, List.dropWhile_cons_of_neg (by simp [hc])]

lemma skipSpace_append (hw : Blank w) (s : List Char) : skipSpace (w ++ s) = skipSpace s := by
  induction w with
  | nil => rfl
  | cons c w ih =>
    have hc : isSpace c = true := hw c (by simp)
    have hw' : Blank w := fun c' hc' => hw c' (by simp [hc'])
    rw [List.cons_append, skipSpace, List.dropWhile_cons_of_pos hc]
    exact ih hw'

lemma skipSpace_append_cons (hw : Blank w) (hc : isSpace c = false) :
    skipSpace (w ++ c :: s) = c :: s := by
  rw [skipSpace_append hw, skipSpace_cons hc]

end Blanks

/-- What may follow a value: nothing, a blank, a comma or a closing bracket. -/
def Ends (rest : List Char) : Prop :=
  ∀ c ∈ rest.head?, isSpace c = true ∨ c = ',' ∨ c = ']' ∨ c = '}'

lemma ends_nil : Ends [] := by simp [Ends]

lemma ends_cons {c : Char} (hc : c = ',' ∨ c = ']' ∨ c = '}') (s : List Char) : Ends (c :: s) := by
  simpa [Ends] using .inr hc

lemma Ends.of_blank {w rest : List Char} (hw : Blank w) (h : Ends rest) : Ends (w ++ rest) := by
  rcases w with _ | ⟨c, w⟩
  · exact h
  · intro c' hc'
    obtain rfl : c = c' := by simpa using hc'
    exact .inl (hw c (by simp))

/-- No digit follows a value. -/
lemma Ends.isDigit_head {rest : List Char} (h : Ends rest) :
    ∀ c ∈ rest.head?, c.isDigit = false := by
  intro c hc
  rcases h c hc with hspace | rfl | rfl | rfl
  · simp only [isSpace, Bool.or_eq_true, beq_iff_eq] at hspace
    rcases hspace with ((rfl | rfl) | rfl) | rfl <;> rfl
  all_goals rfl

/-! ## Strings -/

section Strings

variable {a b c d e : Char} {n : Nat} {s : List Char}

lemma readString_cons (hquote : c ≠ '"') (hback : c ≠ '\\') (hcontrol : 0x20 ≤ c.toNat) :
    readString (c :: s) = consRead c (readString s) := by
  rw [readString]
  · exact if_neg (by omega)
  · exact hquote
  all_goals intros; contradiction

lemma readString_escape (he : simpleEscape? e = some c) :
    readString ('\\' :: e :: s) = consRead c (readString s) := by
  have hu : e ≠ 'u' := by
    rintro rfl
    simp [simpleEscape?] at he
  rw [readString, he]
  all_goals intros; contradiction

lemma readString_unit (hn : fourDigits? a b c d = some n) (hlow : isLowSurrogate n = false)
    (hhigh : isHighSurrogate n = false) :
    readString ('\\' :: 'u' :: a :: b :: c :: d :: s) =
      consRead (Char.ofNat n) (readString s) := by
  rw [readString, hn]
  simp [hlow, hhigh]

lemma readString_pair {a' b' c' d' : Char} {m : Nat} (hn : fourDigits? a b c d = some n)
    (hhigh : isHighSurrogate n = true) (hm : fourDigits? a' b' c' d' = some m)
    (hlow : isLowSurrogate m = true) :
    readString ('\\' :: 'u' :: a :: b :: c :: d :: '\\' :: 'u' :: a' :: b' :: c' :: d' :: s) =
      consRead (pairChar n m) (readString s) := by
  have hn' : isLowSurrogate n = false := by
    simp only [isHighSurrogate, Bool.and_eq_true, decide_eq_true_eq] at hhigh
    simp only [isLowSurrogate, Bool.and_eq_false_iff, decide_eq_false_iff_not]
    omega
  rw [readString, hn]
  simp [hn', hhigh, hm, hlow]

/-- The characters of a string are read from each of its spellings. -/
lemma readString_of_characters {cs t : List Char} (h : Characters cs t) (rest : List Char) :
    readString (t ++ '"' :: rest) = .ok (cs, rest) := by
  induction h with
  | nil => simp [readString]
  | plain hquote hback hcontrol _ ih =>
    rw [List.cons_append, readString_cons hquote hback hcontrol, ih]
    rfl
  | simple he _ ih =>
    rw [List.cons_append, List.cons_append, readString_escape he, ih]
    rfl
  | unit hn hlow hhigh _ ih =>
    simp only [List.cons_append]
    rw [readString_unit hn hlow hhigh, ih]
    rfl
  | pair hn hhigh hm hlow _ ih =>
    simp only [List.cons_append]
    rw [readString_pair hn hhigh hm hlow, ih]
    rfl

end Strings

/-! ## Whole numbers -/

namespace Number

lemma foldl_digits_ge (n : Nat) (ds : List Char) :
    n ≤ ds.foldl (fun n d => 10 * n + (d.toNat - 48)) n := by
  induction ds generalizing n with
  | nil => exact Nat.le_refl n
  | cons d ds ih =>
    have h := ih (10 * n + (d.toNat - 48))
    rw [List.foldl_cons]
    omega

/-- Digits are all taken if the number that they lead to has 64 bits. -/
lemma absorb_eq {n : Nat} {ds : List Char}
    (h : ds.foldl (fun n d => 10 * n + (d.toNat - 48)) n < UInt64.size) :
    absorb n ds = (ds.foldl (fun n d => 10 * n + (d.toNat - 48)) n, ds.length) := by
  induction ds generalizing n with
  | nil => rfl
  | cons d ds ih =>
    rw [List.foldl_cons] at h
    have hstep : 10 * n + (d.toNat - 48) < UInt64.size :=
      Nat.lt_of_le_of_lt (foldl_digits_ge _ ds) h
    rw [absorb, if_pos hstep, ih h]
    rfl

lemma absorb_digits {n : Nat} (h : n < UInt64.size) :
    absorb 0 (Decimal.digits n) = (n, (Decimal.digits n).length) := by
  have hvalue : (Decimal.digits n).foldl (fun n d => 10 * n + (d.toNat - 48)) 0 = n :=
    Decimal.value_digits n
  rw [absorb_eq (by rwa [hvalue]), hvalue]

lemma digits_ne_zero_cons (n : Nat) (d : Char) (ds : List Char) :
    Decimal.digits n ≠ '0' :: d :: ds := by
  intro h
  by_cases hn : n = 0
  · subst hn
    exact absurd (congrArg List.length h) (by simp [Decimal.digits])
  · exact Decimal.head_digits_ne hn (by rw [h]; rfl)

lemma split_digits_append (n : Nat) {rest : List Char} (h : Ends rest) :
    Decimal.split (Decimal.digits n ++ rest) = (Decimal.digits n, rest) :=
  Decimal.split_of_isDigit (fun _ => Decimal.isDigit_of_mem_digits) h.isDigit_head

/-- The digits of a number of 64 bits are read as this number. -/
lemma read_digits_append (negative : Bool) {n : Nat} (hn : n < UInt64.size) {rest : List Char}
    (h : Ends rest) :
    read negative (Decimal.digits n ++ rest) = .ok (whole negative n, rest) := by
  rw [read, split_digits_append n h]
  dsimp only
  split
  · next hnil => exact absurd hnil (Decimal.digits_ne_nil n)
  · next hzero => exact absurd hzero (digits_ne_zero_cons n _ _)
  · rw [absorb_digits hn]
    dsimp only
    -- none of the characters that would go on with the number may follow
    split
    · exact absurd (h '.' rfl) (by decide)
    · exact absurd (h 'e' rfl) (by decide)
    · exact absurd (h 'E' rfl) (by decide)
    · rw [Nat.sub_self, if_pos rfl]

end Number

end ProxyProfiles.Json
