import ProxyProfiles.Json.Fault
import ProxyProfiles.Text.Decimal
import ProxyProfiles.Text.Shortest
/-!
# Numbers of a JSON text

A number without fraction and exponent is a whole number as long as it fits: from `-2 ^ 63` to
`2 ^ 64 - 1`. All others are doubles, `-0` among them. A double is read digit by digit into a
significand of 64 bits, digits that do not fit are only counted, and the significand is then
scaled by a power of ten; a result beyond the doubles makes the text malformed.
-/

namespace ProxyProfiles.Json

open Text

/-- A number of a text. -/
inductive Number where
  /-- A whole number from `-2 ^ 63` to `2 ^ 64 - 1`. -/
  | integer (i : Int)
  /-- Any other number. -/
  | real (x : Float)

namespace Number

/-- How a message shows a double: positional from `1e-5` up to `1e16`, and with a signed exponent
outside. -/
def realText (x : Float) : String :=
  let sign := if 2 * x.toBits.toNat < UInt64.size then [] else ['-']
  if x == 0 then String.ofList (sign ++ ['0', '.', '0'])
  else
    let (n, k) := Shortest.ofFloat x.abs
    let ds := Decimal.digits n
    let point := (ds.length : Int) + k
    let body :=
      if 0 ≤ k ∧ point ≤ 16 then ds ++ List.replicate k.toNat '0' ++ ['.', '0']
      else if 0 < point ∧ point ≤ 16 then ds.take point.toNat ++ '.' :: ds.drop point.toNat
      else if -5 < point ∧ point ≤ 0 then ['0', '.'] ++ List.replicate (-point).toNat '0' ++ ds
      else
        let mantissa := if ds.length = 1 then ds else ds.take 1 ++ '.' :: ds.drop 1
        let mark := if 0 < point then ['e', '+'] else ['e']
        mantissa ++ mark ++ Decimal.chars (point - 1)
    String.ofList (sign ++ body)

/-- How a message shows a number. -/
def shown : Number → String
  | integer i => "integer `" ++ Decimal.ofInt i ++ "`"
  | real x => "floating point `" ++ realText x ++ "`"

/-- Takes digits into a significand of 64 bits until one does not fit, and counts those taken. -/
def absorb (significand : Nat) : List Char → Nat × Nat
  | [] => (significand, 0)
  | d :: ds =>
    let n := 10 * significand + (d.toNat - 48)
    if n < UInt64.size then
      let (m, k) := absorb n ds
      (m, k + 1)
    else (significand, 0)

/-- Multiplies a double by `10 ^ e`; none if the result is beyond the doubles. A power that is
itself beyond them is applied in several steps, of which three always suffice. -/
def scale : Nat → Float → Int → Option Float
  | 0, x, _ => some x
  | steps + 1, x, e =>
    if e.natAbs ≤ 308 then
      let p := Float.ofScientific 1 false e.natAbs
      if 0 ≤ e then
        let y := x * p
        if y.isInf then none else some y
      else some (x / p)
    else if x == 0 then some x
    else if 0 ≤ e then none
    else scale steps (x / Float.ofScientific 1 false 308) (e + 308)

/-- The double of a sign, a significand and an exponent. -/
def ofParts (negative : Bool) (significand : Nat) (e : Int) : Except Fault Number :=
  match scale 8 significand.toUInt64.toFloat e with
  | some x => .ok (.real (if negative then -x else x))
  | none => .error .malformed

/-- Reads the exponent behind its letter, and ends the number. -/
def readExponent (negative : Bool) (significand : Nat) (start : Int) (s : List Char) :
    Except Fault (Number × List Char) :=
  let (down, s) := match s with
    | '+' :: s => (false, s)
    | '-' :: s => (true, s)
    | s => (false, s)
  let (ds, r) := Decimal.split s
  if ds = [] then .error (if s = [] then .truncated else .malformed)
  else
    let e := Decimal.value ds
    if (e : Int) ≤ Int32.maxValue.toInt then
      (ofParts negative significand (if down then start - e else start + e)).map (·, r)
    else if significand ≠ 0 ∧ !down then .error .malformed
    else (ofParts negative 0 0).map (·, r)

/-- Ends a number behind its fraction. -/
def readEnd (negative : Bool) (significand : Nat) (e : Int) (s : List Char) :
    Except Fault (Number × List Char) :=
  match s with
  | 'e' :: r | 'E' :: r => readExponent negative significand e r
  | s => (ofParts negative significand e).map (·, s)

/-- The number of a sign and a significand, with neither fraction nor exponent. -/
def whole (negative : Bool) (significand : Nat) : Number :=
  if negative then
    if 1 ≤ significand ∧ Int64.minValue.toInt ≤ -significand then .integer (-significand)
    else .real (-significand.toUInt64.toFloat)
  else .integer significand

/-- Reads a number behind its sign. -/
def read (negative : Bool) (s : List Char) : Except Fault (Number × List Char) :=
  let (ds, r) := Decimal.split s
  match ds with
  | [] => .error (if s = [] then .truncated else .malformed)
  | '0' :: _ :: _ => .error .malformed
  | ds =>
    let (significand, taken) := absorb 0 ds
    let dropped := ds.length - taken
    match r with
    | '.' :: f =>
      let (fs, r) := Decimal.split f
      if fs = [] then .error (if f = [] then .truncated else .malformed)
      else
        let (significand, placed) := absorb significand fs
        readEnd negative significand ((dropped : Int) - placed) r
    | 'e' :: r | 'E' :: r => readExponent negative significand dropped r
    | r =>
      if dropped = 0 then .ok (whole negative significand, r)
      else (ofParts negative significand dropped).map (·, r)

/-- Skips the exponent behind its letter. -/
def skipExponent (s : List Char) : Except Fault (List Char) :=
  let s := match s with
    | '+' :: s | '-' :: s => s
    | s => s
  let (ds, r) := Decimal.split s
  if ds = [] then .error .malformed else .ok r

/-- Skips a number behind its sign, of any size. One that breaks off is malformed. -/
def skip (s : List Char) : Except Fault (List Char) :=
  let (ds, r) := Decimal.split s
  match ds with
  | [] => .error .malformed
  | '0' :: _ :: _ => .error .malformed
  | _ =>
    match r with
    | '.' :: f =>
      let (fs, r) := Decimal.split f
      if fs = [] then .error .malformed
      else match r with
        | 'e' :: r | 'E' :: r => skipExponent r
        | r => .ok r
    | 'e' :: r | 'E' :: r => skipExponent r
    | r => .ok r

end Number

end ProxyProfiles.Json
