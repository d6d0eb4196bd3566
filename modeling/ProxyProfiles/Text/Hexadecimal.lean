/-!
# Hexadecimal digits

Digits are read in either case. `value?` reads a text made of hexadecimal digits only.
-/

namespace ProxyProfiles.Text.Hexadecimal

/-- The value of a hexadecimal digit. -/
def digit? (c : Char) : Option Nat :=
  if '0' ≤ c ∧ c ≤ '9' then some (c.toNat - 48)
  else if 'a' ≤ c ∧ c ≤ 'f' then some (c.toNat - 87)
  else if 'A' ≤ c ∧ c ≤ 'F' then some (c.toNat - 55)
  else none

/-- Whether a character is a hexadecimal digit. -/
def isDigit (c : Char) : Bool :=
  (digit? c).isSome

/-- The number that a text of hexadecimal digits stands for. -/
def value? (ds : List Char) : Option Nat :=
  ds.foldlM (fun n d => (digit? d).map (16 * n + ·)) 0

/-- The lower-case digit of a number below sixteen. -/
def lower (n : Nat) : Char :=
  if n < 10 then Char.ofNat (48 + n) else Char.ofNat (87 + n)

/-- The upper-case digit of a number below sixteen. -/
def upper (n : Nat) : Char :=
  if n < 10 then Char.ofNat (48 + n) else Char.ofNat (55 + n)

/-- The four lower-case digits of a number below 65536. -/
def fourLower (n : Nat) : List Char :=
  [lower (n / 4096 % 16), lower (n / 256 % 16), lower (n / 16 % 16), lower (n % 16)]

/-- The four upper-case digits of a number below 65536. -/
def fourUpper (n : Nat) : List Char :=
  [upper (n / 4096 % 16), upper (n / 256 % 16), upper (n / 16 % 16), upper (n % 16)]

theorem digit?_lower : ∀ n < 16, digit? (lower n) = some n := by decide

theorem digit?_upper : ∀ n < 16, digit? (upper n) = some n := by decide

/-- Four digits read back as the number below 65536 that they were written for. -/
theorem value?_fourLower {n : Nat} (h : n < 65536) : value? (fourLower n) = some n := by
  have a := digit?_lower (n / 4096 % 16) (by omega)
  have b := digit?_lower (n / 256 % 16) (by omega)
  have c := digit?_lower (n / 16 % 16) (by omega)
  have d := digit?_lower (n % 16) (by omega)
  simp [value?, fourLower, a, b, c, d]
  omega

/-- Upper-case digits read back as well. -/
theorem value?_fourUpper {n : Nat} (h : n < 65536) : value? (fourUpper n) = some n := by
  have a := digit?_upper (n / 4096 % 16) (by omega)
  have b := digit?_upper (n / 256 % 16) (by omega)
  have c := digit?_upper (n / 16 % 16) (by omega)
  have d := digit?_upper (n % 16) (by omega)
  simp [value?, fourUpper, a, b, c, d]
  omega

end ProxyProfiles.Text.Hexadecimal
