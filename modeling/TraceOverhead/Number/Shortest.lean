import TraceOverhead.Number.Double
/-!
The fewest decimal digits that single out a double. The doubles split the real line into intervals
of the reals that round to each of them; on ever finer decimal grids the neighbours of the exact
value are tried, and the first grid with a point inside the interval gives the digits.
-/

namespace TraceOverhead.Number

/-- A decimal number `digits * 10 ^ exponent`. -/
structure Decimal where
  digits : Nat
  exponent : Int
  deriving DecidableEq, Repr

/-- The reals that round to a double, with the double itself, as quarters of its unit in the last
place: `value`, `low` and `high` are numerators over one denominator. The ends belong to the
interval exactly if the mantissa is even. -/
structure Interval where
  low : Nat
  value : Nat
  high : Nat
  denominator : Nat
  closed : Bool

/-- Below a power of two the doubles lie closer together, so there the lower half is shorter. -/
def Interval.around (mantissa : Nat) (exponent : Int) : Interval :=
  let below := if mantissa = leadingBit ∧ -1074 < exponent then 1 else 2
  let scale := if 0 ≤ exponent then Nat.pow 2 exponent.toNat else 1
  { low := (4 * mantissa - below) * scale
    value := 4 * mantissa * scale
    high := (4 * mantissa + 2) * scale
    denominator := if 0 ≤ exponent then 4 else 4 * Nat.pow 2 (-exponent).toNat
    closed := mantissa % 2 = 0 }

/-- The same interval seen on the grid of multiples of `10 ^ exponent`. -/
def Interval.onGrid (interval : Interval) (exponent : Int) : Interval :=
  if 0 ≤ exponent then
    { interval with denominator := interval.denominator * Nat.pow 10 exponent.toNat }
  else
    let scale := Nat.pow 10 (-exponent).toNat
    { interval with
      low := interval.low * scale
      value := interval.value * scale
      high := interval.high * scale }

def Interval.contains (interval : Interval) (point : Nat) : Bool :=
  let scaled := point * interval.denominator
  if interval.closed then interval.low ≤ scaled && scaled ≤ interval.high
  else interval.low < scaled && scaled < interval.high

/-- The nearer of the value's two neighbours on the grid that lie in the interval; of two equally
near ones the even one. -/
def Interval.gridPoint? (interval : Interval) : Option Nat :=
  let lower := interval.value / interval.denominator
  let twice := 2 * (interval.value % interval.denominator)
  match interval.contains lower, interval.contains (lower + 1) with
  | true, true =>
    if twice < interval.denominator then some lower
    else if interval.denominator < twice then some (lower + 1)
    else some (lower + lower % 2)
  | true, false => some lower
  | false, true => some (lower + 1)
  | false, false => none

/-- Tries grids from `10 ^ exponent` downwards. Nineteen steps below the leading digit every
interval holds a grid point, so the fuel never decides. -/
def searchGrids (interval : Interval) : Nat → Int → Decimal
  | 0, exponent => ⟨interval.value / interval.denominator, exponent⟩
  | fuel + 1, exponent =>
    match (interval.onGrid exponent).gridPoint? with
    | some digits => ⟨digits, exponent⟩
    | none => searchGrids interval fuel (exponent - 1)

/-- The shortest decimal that reads back as `mantissa * 2 ^ exponent`, for a positive mantissa. -/
def shortest (mantissa : Nat) (exponent : Int) : Decimal :=
  let interval := Interval.around mantissa exponent
  let size : Int := ((Nat.repr interval.value).length : Int) -
    ((Nat.repr interval.denominator).length : Int)
  searchGrids interval 21 (size + 1)

end TraceOverhead.Number
