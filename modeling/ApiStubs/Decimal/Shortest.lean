import ApiStubs.Decimal.Binary64

/-!
# The shortest decimal that reads back

The reals that round to a finite positive value `m · 2 ^ q` form an interval: half
a step of the format to either side, a quarter below a power of two, where the
steps get smaller. Its ends belong to it iff `m` is even.

`Shortest.digits` finds the decimal with the fewest digits in that interval. For
one digit, two digits, and so on up to seventeen, it tests the two neighbours of
the value on the grid of decimals with that many digits. The first grid with a
neighbour inside the interval wins; of two neighbours inside, the nearer one, and
the even one of a tie.
-/

namespace ApiStubs
namespace Shortest

/-- A decimal `coefficient · 10 ^ exponent`. -/
structure Decimal where
  coefficient : Nat
  exponent : Int
  deriving DecidableEq, Repr

/-- The greatest `e` with `10 ^ e ≤ num / den`, for positive numbers. -/
def decimalExponent (num den : Nat) : Int :=
  if den ≤ num then (Binary64.digitCount (num / den) : Int) - 1
  else -(Binary64.digitCount ((den + num - 1) / num - 1) : Int)

/-- A value and the interval around it, as numerators over one denominator. -/
structure Interval where
  low : Nat
  value : Nat
  high : Nat
  den : Nat
  closed : Bool

namespace Interval

/-- The interval of the reals that round to `m · 2 ^ q`. -/
def ofBinary (m : Nat) (q : Int) : Interval :=
  -- Below a power of two, the next value is only half a step away.
  let below := if m = Binary64.topMantissa ∧ Binary64.minExponent < q then 1 else 2
  let unit := Binary64.scale 1 1 (2 - q)
  { low := (4 * m - below) * unit.1
    value := 4 * m * unit.1
    high := (4 * m + 2) * unit.1
    den := unit.2
    closed := m % 2 = 0 }

/-- The interval in units of `10 ^ k`. -/
def inUnits (i : Interval) (k : Int) : Interval :=
  if 0 ≤ k then { i with den := i.den * Nat.pow 10 k.toNat }
  else
    let factor := Nat.pow 10 (-k).toNat
    { i with low := i.low * factor, value := i.value * factor, high := i.high * factor }

/-- Whether a number of units lies in the interval. -/
def contains (i : Interval) (n : Nat) : Bool :=
  let x := n * i.den
  if i.closed then decide (i.low ≤ x ∧ x ≤ i.high) else decide (i.low < x ∧ x < i.high)

/-- The better one of the two neighbours of the value among the whole numbers of
units, if one of them lies in the interval. -/
def neighbour? (i : Interval) : Option Nat :=
  let floor := i.value / i.den
  let rest := i.value % i.den
  match i.contains floor, i.contains (floor + 1) with
  | true, true => some (Binary64.roundDiv (floor * i.den + rest) i.den)
  | true, false => some floor
  | false, true => some (floor + 1)
  | false, false => none

end Interval

/-- Tries the grids with `count`, `count + 1`, … digits, as many as `grids` of them. An
upper neighbour with one digit more is a power of ten, hence a single digit. -/
def search (i : Interval) (leading : Int) (count : Nat) : Nat → Option Decimal
  | 0 => none
  | grids + 1 =>
    let k := leading + 1 - count
    match (i.inUnits k).neighbour? with
    | some n => some (if n = Nat.pow 10 count then ⟨1, leading + 1⟩ else ⟨n, k⟩)
    | none => search i leading (count + 1) grids

/-- The shortest decimal that rounds to `m · 2 ^ q`, for a positive `m`. Seventeen
digits always suffice. -/
def digits (m : Nat) (q : Int) : Decimal :=
  let i := Interval.ofBinary m q
  (search i (decimalExponent i.value i.den) 1 17).getD ⟨0, 0⟩

end Shortest
end ApiStubs
