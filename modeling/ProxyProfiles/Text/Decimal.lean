import ProxyProfiles.Text.Split
/-!
# Decimal texts of whole numbers

Numbers are written with the digits `0` to `9`, without superfluous zeros and with a minus
sign in front of a negative one. `value` reads a run of digits of any length, superfluous
zeros included.
-/

namespace ProxyProfiles.Text

/-- Whether a whole number has 64 bits. -/
def isInt64 (i : Int) : Bool :=
  Int64.minValue.toInt ≤ i && i ≤ Int64.maxValue.toInt

namespace Decimal

/-- The number that a run of digits stands for. -/
def value (ds : List Char) : Nat :=
  ds.foldl (fun n d => 10 * n + (d.toNat - 48)) 0

/-- A run of digits: at least one, and nothing else. -/
def isRun (s : List Char) : Bool :=
  !s.isEmpty && s.all Char.isDigit

/-- The digits of a number, most significant first. -/
def digits (n : Nat) : List Char :=
  Nat.toDigits 10 n

/-- The characters of a whole number. -/
def chars (i : Int) : List Char :=
  if i < 0 then '-' :: digits i.natAbs else digits i.natAbs

/-- A natural number as a string. -/
def ofNat (n : Nat) : String :=
  String.ofList (digits n)

/-- A whole number as a string. -/
def ofInt (i : Int) : String :=
  String.ofList (chars i)

/-- The longest run of digits in front of a text, and what follows it. -/
def split (s : List Char) : List Char × List Char :=
  (s.takeWhile Char.isDigit, s.dropWhile Char.isDigit)

theorem isRun_iff {s : List Char} : isRun s = true ↔ s ≠ [] ∧ ∀ c ∈ s, c.isDigit = true := by
  simp [isRun]

theorem isDigit_of_isRun {s : List Char} (h : isRun s = true) : ∀ c ∈ s, c.isDigit = true :=
  (isRun_iff.1 h).2

theorem not_mem_of_isRun {s : List Char} {c : Char} (h : isRun s = true)
    (hc : c.isDigit = false) : c ∉ s := by
  intro hmem
  rw [isDigit_of_isRun h c hmem] at hc
  contradiction

theorem split_append (s : List Char) : (split s).1 ++ (split s).2 = s :=
  List.takeWhile_append_dropWhile

theorem isDigit_of_mem_split {s : List Char} {c : Char} (h : c ∈ (split s).1) :
    c.isDigit = true := by
  simp only [split] at h
  exact (List.all_eq_true.1 (List.all_takeWhile (l := s) (p := Char.isDigit))) c h

theorem digits_ne_nil (n : Nat) : digits n ≠ [] :=
  Nat.toDigits_ne_nil

theorem isDigit_of_mem_digits {n : Nat} {c : Char} (h : c ∈ digits n) : c.isDigit = true :=
  Nat.isDigit_of_mem_toDigits (by decide) (by decide) h

theorem isRun_digits (n : Nat) : isRun (digits n) = true :=
  isRun_iff.2 ⟨digits_ne_nil n, fun _ => isDigit_of_mem_digits⟩

/-- The digits of a number stand for it. -/
@[simp] theorem value_digits (n : Nat) : value (digits n) = n :=
  Nat.ofDigitChars_toDigits (by decide) (by decide)

/-- A number other than zero does not begin with a zero. -/
theorem head_digits_ne {n : Nat} (hn : n ≠ 0) : (digits n).head? ≠ some '0' := by
  induction n using Nat.strongRecOn with
  | ind n ih =>
    rw [digits, Nat.toDigits_eq_if (by decide)]
    split
    · next hlt =>
      have hdigit : ∀ k < 10, k ≠ 0 → Nat.digitChar k ≠ '0' := by decide
      simpa using hdigit n hlt hn
    · next hge =>
      have hrest := ih (n / 10) (by omega) (by omega)
      rw [digits] at hrest
      rcases hcons : Nat.toDigits 10 (n / 10) with _ | ⟨d, ds⟩
      · exact absurd hcons Nat.toDigits_ne_nil
      · rw [hcons] at hrest
        simpa using hrest

/-- A run of digits ends where something else follows. -/
theorem split_of_isDigit {ds rest : List Char} (hds : ∀ c ∈ ds, c.isDigit = true)
    (hrest : ∀ c ∈ rest.head?, c.isDigit = false) : split (ds ++ rest) = (ds, rest) := by
  obtain ⟨htake, hdrop⟩ := takeWhile_dropWhile_append hds hrest
  rw [split, htake, hdrop]

/-- Different numbers have different digits. -/
theorem digits_inj {m n : Nat} (h : digits m = digits n) : m = n := by
  rw [← value_digits m, h, value_digits]

/-- Different numbers have different texts. -/
theorem ofNat_inj {m n : Nat} (h : ofNat m = ofNat n) : m = n :=
  digits_inj (String.ofList_injective h)

theorem chars_ne_nil (i : Int) : chars i ≠ [] := by
  unfold chars
  split
  · simp
  · exact digits_ne_nil _

/-- A sign and digits are all that whole numbers are written with. -/
theorem eq_or_isDigit_of_mem_chars {i : Int} {c : Char} (h : c ∈ chars i) :
    c = '-' ∨ c.isDigit = true := by
  unfold chars at h
  split at h
  · rcases List.mem_cons.1 h with h | h
    · exact .inl h
    · exact .inr (isDigit_of_mem_digits h)
  · exact .inr (isDigit_of_mem_digits h)

/-- Different whole numbers have different characters. -/
theorem chars_inj {i j : Int} (h : chars i = chars j) : i = j := by
  have hsign {n : Nat} : '-' ∉ digits n :=
    fun hmem => absurd (isDigit_of_mem_digits hmem) (by decide)
  unfold chars at h
  split at h <;> split at h
  · have := digits_inj (List.cons.inj h).2
    omega
  · exact absurd (h ▸ List.mem_cons_self) hsign
  · exact absurd (h.symm ▸ List.mem_cons_self) hsign
  · have := digits_inj h
    omega

end Decimal

end ProxyProfiles.Text
