import ProxyProfiles.Text.Decimal
import ProxyProfiles.Text.Hexadecimal
/-!
# Numbers, truth values and dates of a TOML document

Nothing of these values is kept; what counts is where they end, and whether they are allowed:
a whole number has 64 bits, a double is not infinite unless it is written so or is negative, and
a date is a date of the calendar.
-/

namespace ProxyProfiles.Toml

open Text

/-- What follows a fixed word. -/
def skipWord : List Char → List Char → Option (List Char)
  | [], s => some s
  | _ :: _, [] => none
  | w :: ws, c :: s => if c = w then skipWord ws s else none

/-! ## Dates and times -/

/-- Reads a number of exactly `n` digits that is at most `top`. -/
def readDigits (n top : Nat) (s : List Char) : Option (Nat × List Char) :=
  let ds := s.take n
  if ds.length = n ∧ ds.all Char.isDigit ∧ Decimal.value ds ≤ top then
    some (Decimal.value ds, s.drop n)
  else none

/-- The number of days of a month. -/
def daysOf (year month : Nat) : Nat :=
  if month = 2 then
    if year % 4 = 0 ∧ (year % 100 ≠ 0 ∨ year % 400 = 0) then 29 else 28
  else if month = 4 ∨ month = 6 ∨ month = 9 ∨ month = 11 then 30
  else 31

/-- Goes over a date. -/
def skipDate (s : List Char) : Option (List Char) := do
  let (year, s) ← readDigits 4 9999 s
  let (month, s) ← readDigits 2 12 (← skipWord ['-'] s)
  let (day, s) ← readDigits 2 (daysOf year month) (← skipWord ['-'] s)
  if 1 ≤ month ∧ 1 ≤ day then some s else none

/-- Goes over a fraction of a second, if there is one. -/
def skipSecondFraction : List Char → List Char
  | '.' :: c :: s => if c.isDigit then s.dropWhile Char.isDigit else '.' :: c :: s
  | s => s

/-- Goes over a time of day. A minute may have a second too many. -/
def skipTime (s : List Char) : Option (List Char) := do
  let (_, s) ← readDigits 2 23 s
  let (_, s) ← readDigits 2 59 (← skipWord [':'] s)
  let (_, s) ← readDigits 2 60 (← skipWord [':'] s)
  return skipSecondFraction s

/-- Goes over a distance from universal time. -/
def skipOffset : List Char → Option (List Char)
  | 'Z' :: s | 'z' :: s => some s
  | '+' :: s | '-' :: s => do
    let (_, s) ← readDigits 2 23 s
    let (_, s) ← readDigits 2 59 (← skipWord [':'] s)
    return s
  | _ => none

/-- Goes over a date, a time, or both. -/
def skipMoment (s : List Char) : Option (List Char) :=
  match skipDate s with
  | none => skipTime s
  | some r =>
    match r with
    | c :: t =>
      if c = 'T' ∨ c = 't' ∨ c = ' ' then
        match skipTime t with
        | some u => some ((skipOffset u).getD u)
        | none => some r
      else some r
    | [] => some r

/-! ## Numbers -/

/-- A run of digits with single underscores between digits, without the underscores. -/
def plainDigits? (isDigit : Char → Bool) (run : List Char) : Option (List Char) :=
  if run.head?.any isDigit ∧ run.getLast?.any isDigit ∧
      (run.zip run.tail).all (fun p => p.1 != '_' || p.2 != '_') then
    some (run.filter (· ≠ '_'))
  else none

/-- Reads a run of digits with underscores between them. -/
def readRun (isDigit : Char → Bool) (s : List Char) : Option (List Char × List Char) :=
  (plainDigits? isDigit (s.takeWhile fun c => isDigit c || c == '_')).map
    (·, s.dropWhile fun c => isDigit c || c == '_')

/-- Goes over a whole number to another base that fits in 63 bits. -/
def skipBased (base : Nat) (s : List Char) : Option (List Char) := do
  let digit (c : Char) : Bool := (Hexadecimal.digit? c).any (· < base)
  let (ds, r) ← readRun digit s
  let n := ds.foldl (fun n d => base * n + (Hexadecimal.digit? d).getD 0) 0
  if isInt64 n then some r else none

/-- Whether the double of some digits, times a power of ten, is infinite. -/
def overflows (ds : List Char) (e : Int) : Bool :=
  let ds := ds.dropWhile (· == '0')
  let size := (ds.length : Int) + e
  if ds = [] ∨ size < 0 then false
  else if 400 < size then true
  else (Float.ofScientific (Decimal.value ds) (decide (e < 0)) e.natAbs).isInf

/-- Reads the exponent of a number, if there is one. -/
def readExponent? (s : List Char) : Option (Option Int × List Char) :=
  match s with
  | 'e' :: s | 'E' :: s => do
    let (negative, s) := match s with
      | '+' :: s => (false, s)
      | '-' :: s => (true, s)
      | s => (false, s)
    let (ds, r) ← readRun Char.isDigit s
    let e : Int := Decimal.value ds
    return (some (if negative then -e else e), r)
  | s => some (none, s)

/-- Goes over a decimal number behind its sign. -/
def skipDecimal (negative : Bool) (s : List Char) : Option (List Char) := do
  let (ds, r) ← readRun Char.isDigit s
  if ds.head? = some '0' ∧ s.takeWhile (fun c => c.isDigit || c == '_') ≠ ['0'] then none
  else
    let (fraction, r) ← match r with
      | '.' :: r => readRun Char.isDigit r
      | r => some ([], r)
    let (e, r) ← readExponent? r
    if fraction = [] ∧ e = none then
      if isInt64 (if negative then -Decimal.value ds else Decimal.value ds) then some r else none
    else if !negative ∧ overflows (ds ++ fraction) (e.getD 0 - fraction.length) then none
    else some r

/-- Goes over a number, a date or a time. -/
def skipNumber (s : List Char) : Option (List Char) :=
  match skipMoment s with
  | some r => some r
  | none =>
    match s with
    | '0' :: 'x' :: s => skipBased 16 s
    | '0' :: 'o' :: s => skipBased 8 s
    | '0' :: 'b' :: s => skipBased 2 s
    | '+' :: s => signed false s
    | '-' :: s => signed true s
    | s => skipDecimal false s
where
  /-- Goes over a number behind a sign that is there. -/
  signed (negative : Bool) (s : List Char) : Option (List Char) :=
    match s with
    | 'i' :: s => skipWord ['n', 'f'] s
    | 'n' :: s => skipWord ['a', 'n'] s
    | s => skipDecimal negative s

/-- Goes over a scalar. -/
def skipScalar : List Char → Option (List Char)
  | 't' :: s => skipWord ['r', 'u', 'e'] s
  | 'f' :: s => skipWord ['a', 'l', 's', 'e'] s
  | 'i' :: s => skipWord ['n', 'f'] s
  | 'n' :: s => skipWord ['a', 'n'] s
  | s => skipNumber s

end ProxyProfiles.Toml
