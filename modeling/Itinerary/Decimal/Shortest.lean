import Itinerary.Decimal.Binary

/-!
# The fewest digits that read back

A double is written with as few significant digits as single it out among all doubles, and among the
candidates of that length with the nearest one. The reals that round to a double form an interval;
the two neighbours of the exact value are tried on one decimal grid after the other, and the first
grid with a hit decides. The coarsest grid is the one of the power of ten above the value, so the
digits never end in a zero; seventeen digits always suffice.

`positional` writes such a number without an exponent, however long it gets.
-/

namespace Itinerary.Decimal

/-- A positive rational as numerator and denominator. -/
structure Ratio where
  num : Nat
  den : Nat

namespace Ratio

/-- The rational `n * 2 ^ e`. -/
def scale2 (n : Nat) (e : Int) : Ratio :=
  if 0 ≤ e then ⟨n <<< e.toNat, 1⟩ else ⟨n, 1 <<< (-e).toNat⟩

/-- The rational `n * 10 ^ e`. -/
def scale10 (n : Nat) (e : Int) : Ratio :=
  if 0 ≤ e then ⟨n * tenTo e.toNat, 1⟩ else ⟨n, tenTo (-e).toNat⟩

def lt (a b : Ratio) : Bool := a.num * b.den < b.num * a.den

def le (a b : Ratio) : Bool := a.num * b.den ≤ b.num * a.den

/-- How often `10 ^ e` fits into the value. -/
def countOf (a : Ratio) (e : Int) : Nat :=
  let unit := scale10 1 e
  a.num * unit.den / (a.den * unit.num)

/-- The greatest `e` with `10 ^ e` at most the value, found by walking down from `start`. -/
def magnitudeFrom (a : Ratio) : Nat → Int → Int
  | 0, e => e
  | fuel + 1, e => if (scale10 1 e).le a then e else magnitudeFrom a fuel (e - 1)

/-- The decimal exponent of the leading digit. No double reaches `10 ^ 309`, and the smallest one is
above `10 ^ -324`. -/
def magnitude (a : Ratio) : Int := a.magnitudeFrom 640 309

end Ratio

/-- The interval of the reals that round to one double. -/
structure Interval where
  low : Ratio
  high : Ratio
  closed : Bool

/-- Whether the decimal `n * 10 ^ e` lies in the interval. -/
def Interval.holds (i : Interval) (n : Nat) (e : Int) : Bool :=
  let x := Ratio.scale10 n e
  if i.closed then i.low.le x && x.le i.high else i.low.lt x && x.lt i.high

/-- Of the two neighbours of the value on the grid of `10 ^ e`, the nearer one that lies in the
interval, the upper one where both are equally near. -/
def gridHit (value : Ratio) (i : Interval) (e : Int) : Option Nat :=
  let below := value.countOf e
  let unit := Ratio.scale10 1 e
  -- twice the part of the value above `below`, compared with one step of the grid
  let rest := 2 * (value.num * unit.den - below * (value.den * unit.num))
  let belowNearer := rest < value.den * unit.num
  match i.holds below e, i.holds (below + 1) e with
  | true, true => some (if belowNearer then below else below + 1)
  | true, false => some below
  | false, true => some (below + 1)
  | false, false => none

/-- Tries the grids from coarse to fine. -/
def searchGrids (value : Ratio) (i : Interval) : Nat → Int → Nat × Int
  | 0, e => (value.countOf e, e)
  | fuel + 1, e =>
    match gridHit value i e with
    | some n => (n, e)
    | none => searchGrids value i fuel (e - 1)

/-- The shortest decimal `n * 10 ^ e` for the positive double `mantissa * 2 ^ exponent`. -/
def shortest (mantissa : Nat) (exponent : Int) (narrow : Bool) : Nat × Int :=
  let value := Ratio.scale2 mantissa exponent
  let low := Ratio.scale2 (4 * mantissa - if narrow then 1 else 2) (exponent - 2)
  let high := Ratio.scale2 (4 * mantissa + 2) (exponent - 2)
  searchGrids value ⟨low, high, mantissa % 2 = 0⟩ 18 (value.magnitude + 1)

/-- Moves zeros at the end of the digits into the exponent, as long as it is negative. -/
def dropZeros : Nat → Nat → Int → Nat × Int
  | 0, n, e => (n, e)
  | fuel + 1, n, e => if e < 0 ∧ n % 10 = 0 then dropZeros fuel (n / 10) (e + 1) else (n, e)

/-- The decimal `n * 10 ^ e` without an exponent. -/
def plain (n : Nat) (e : Int) : List Char :=
  let (n, e) := dropZeros 20 n e
  if 0 ≤ e then digits n ++ List.replicate e.toNat '0'
  else
    let places := (-e).toNat
    digits (n / tenTo places) ++ '.' :: padded places (n % tenTo places)

/-- The float in positional notation with the fewest digits that read back. -/
def positional (x : Float) : String :=
  match Binary.ofFloat x with
  | .nan => "NaN"
  | .infinite negative => if negative then "-inf" else "inf"
  | .finite negative mantissa exponent narrow =>
    let body :=
      if mantissa = 0 then ['0']
      else
        let (n, e) := shortest mantissa exponent narrow
        plain n e
    String.ofList (if negative then '-' :: body else body)

end Itinerary.Decimal
