/-!
# Shortest decimals

The decimal with the fewest digits in an interval around a number.

A decimal is a pair of a digit string, as a natural number, and a power of ten.  The decimals
with a common power of ten form a grid, and the coarser the grid, the fewer digits a number in a
given range needs on it.  So the coarsest grid that has a point in the interval is the place to
look, and of its points the one nearest to the number is taken.

The number and the ends of the interval are given in a common unit that is a power of two.

## Main definitions

* `Interval` : a number with the interval of numbers that stand for it.
* `Interval.onGrid?` : the point of a grid nearest to the number, if it lies in the interval.
* `Interval.shortest` : the point on the coarsest grid that has one.
-/

namespace EventPackets

/-- A positive number with an interval around it, all in units of `2 ^ unit`. -/
structure Interval where
  unit : Int
  low : Nat
  number : Nat
  high : Nat
  /-- whether the ends belong to the interval -/
  closed : Bool

/-- A decimal: the digits, as a number, times a power of ten. -/
structure Decimal where
  digits : Nat
  exponent : Int
  deriving DecidableEq

namespace Interval

/-- The factor to which a unit `2 ^ unit` corresponds when a grid `10 ^ exponent` corresponds to
`gridStep`. -/
def unitStep (unit exponent : Int) : Nat :=
  Nat.pow 10 (-exponent).toNat <<< unit.toNat

/-- The factor to which a grid `10 ^ exponent` corresponds when a unit `2 ^ unit` corresponds to
`unitStep`. -/
def gridStep (unit exponent : Int) : Nat :=
  Nat.pow 10 exponent.toNat <<< (-unit).toNat

/-- Whether the `d`-th point of a grid lies in the interval. -/
def holds (v : Interval) (exponent : Int) (d : Nat) : Bool :=
  let u := unitStep v.unit exponent
  let x := d * gridStep v.unit exponent
  if v.closed then v.low * u ≤ x && x ≤ v.high * u
  else v.low * u < x && x < v.high * u

/-- The positive point of a grid nearest to the number, if it lies in the interval; of two
equally near ones the greater. -/
def onGrid? (v : Interval) (exponent : Int) : Option Decimal :=
  let n := v.number * unitStep v.unit exponent
  let g := gridStep v.unit exponent
  let d := n / g
  let below := d != 0 && v.holds exponent d
  let above := v.holds exponent (d + 1)
  if above && (!below || g ≤ 2 * (n % g)) then some ⟨d + 1, exponent⟩
  else if below then some ⟨d, exponent⟩
  else none

/-- The point nearest to the number on the first grid that has one in the interval, of the `n`
grids from `top` downwards. -/
def shortest (v : Interval) (top : Int) (n : Nat) : Option Decimal :=
  (List.range n).findSome? fun i => v.onGrid? (top - Int.ofNat i)

end Interval

end EventPackets
