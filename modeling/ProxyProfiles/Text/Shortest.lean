/-!
# The fewest digits that name a double

A double is `m * 2 ^ q`. The decimals that round to it form an interval, ends included when `m`
is even. Among the decimals in the interval with the fewest digits, `ofFloat` gives the one
nearest to the double itself: it tries the grids of multiples of `10 ^ k` from coarse to fine,
and on the first grid with a point in the interval one of the two neighbours of the double is
such a point.
-/

namespace ProxyProfiles.Text.Shortest

/-- A fraction of natural numbers. -/
structure Ratio where
  /-- The number above the line. -/
  num : Nat
  /-- The number below the line. -/
  den : Nat

namespace Ratio

/-- The fraction `b ^ k`, for an exponent of either sign. -/
def pow (b : Nat) (k : Int) : Ratio :=
  if 0 ≤ k then ⟨b.pow k.toNat, 1⟩ else ⟨1, b.pow (-k).toNat⟩

/-- A multiple of a fraction. -/
def scale (n : Nat) (x : Ratio) : Ratio := ⟨n * x.num, x.den⟩

/-- Whether one fraction is at most another. -/
def le (x y : Ratio) : Bool := x.num * y.den ≤ y.num * x.den

/-- Whether one fraction is less than another. -/
def lt (x y : Ratio) : Bool := x.num * y.den < y.num * x.den

end Ratio

/-- The decimals that round to one double, around its value. All are multiples of a quarter of
the double's last bit. -/
structure Interval where
  /-- The lower end. -/
  low : Ratio
  /-- The double itself. -/
  mid : Ratio
  /-- The upper end. -/
  high : Ratio
  /-- Whether the ends belong to it. -/
  closed : Bool

/-- The bit above the 52 that are stored of a significand. -/
def hidden : Nat := 1 <<< 52

/-- The interval of a positive double. -/
def interval (x : Float) : Interval :=
  let bits : Nat := x.toBits.toNat
  let e : Nat := bits / hidden % 2048
  let f : Nat := bits % hidden
  let m : Nat := if e = 0 then f else hidden + f
  let q : Int := Int.ofNat (max e 1) - 1075
  let unit : Ratio := Ratio.pow 2 (q - 2)
  let below : Nat := if f = 0 ∧ 1 < e then 1 else 2
  ⟨unit.scale (4 * m - below), unit.scale (4 * m), unit.scale (4 * m + 2), m % 2 == 0⟩

/-- Whether an interval holds a decimal. -/
def Interval.holds (i : Interval) (d : Ratio) : Bool :=
  if i.closed then i.low.le d && d.le i.high else i.low.lt d && d.lt i.high

/-- The multiple of `10 ^ k` in an interval that is nearest to its middle, an even one of two
equally near. -/
def onGrid (i : Interval) (k : Int) : Option Nat :=
  let g := Ratio.pow 10 k
  let n := i.mid.num * g.den / (i.mid.den * g.num)
  let twice := Ratio.scale (2 * n + 1) g
  let nearer := if (i.mid.scale 2).lt twice then n
    else if twice.lt (i.mid.scale 2) then n + 1
    else if n % 2 = 0 then n else n + 1
  let other := if nearer = n then n + 1 else n
  if 0 < nearer ∧ i.holds (g.scale nearer) then some nearer
  else if 0 < other ∧ i.holds (g.scale other) then some other
  else none

/-- The first grid from `10 ^ k` downwards with a point in the interval. -/
def search (i : Interval) : Nat → Int → Nat × Int
  | 0, k => (0, k)
  | fuel + 1, k =>
    match onGrid i k with
    | some n => (n, k)
    | none => search i fuel (k - 1)

/-- The shortest decimal `n * 10 ^ k` of a positive double, as `(n, k)`. -/
def ofFloat (x : Float) : Nat × Int :=
  search (interval x) 640 309

end ProxyProfiles.Text.Shortest
