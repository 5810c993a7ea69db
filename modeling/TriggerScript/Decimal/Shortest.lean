import TriggerScript.Binary.FloatFormat

/-!
# Shortest decimals

The shortest decimal of a floating-point number is the one with the fewest digits among those that
read back as the number, and of these the nearest. The grids of multiples of `10 ^ k` are tried
from coarse to fine; on each of them only the two neighbours of the number can be nearest.
-/

namespace TriggerScript

structure Decimal where
  digits : Nat
  exponent : Int
  deriving DecidableEq

/-- Which of two equally near decimals is taken. -/
inductive Tie where
  | away
  | toEven
  deriving DecidableEq

namespace Decimal

/-- The decimals that read back as `m * 2 ^ q` lie between `low` and `high`, in units of
`1 / unit`; the ends belong to them when `closed` holds. -/
structure Interval where
  low : Nat
  value : Nat
  high : Nat
  unit : Nat
  closed : Bool

/-- Half way to the two neighbours. Below the least significand of a normal number the lower
neighbour is only half as far away. -/
def Interval.around (f : FloatFormat) (m : Nat) (q : Int) : Interval :=
  let half := if m = f.hiddenBit ∧ f.leastExponent < q then 1 else 2
  let scale := Nat.pow 2 (q - 2).toNat
  { low := (4 * m - half) * scale
    value := 4 * m * scale
    high := (4 * m + 2) * scale
    unit := Nat.pow 2 (2 - q).toNat
    closed := m % 2 = 0 }

def Interval.contains (i : Interval) (n d : Nat) : Bool :=
  let x := n * i.unit
  i.low * d < x && x < i.high * d || i.closed && (x = i.low * d || x = i.high * d)

/-- The neighbour on the grid of multiples of `10 ^ k` that reads back, the nearer one of two. -/
def Interval.onGrid (i : Interval) (tie : Tie) (k : Int) : Option Decimal :=
  let up := Nat.pow 10 k.toNat
  let down := Nat.pow 10 (-k).toNat
  let below := i.value * down / (i.unit * up)
  let excess := 2 * (i.value * down % (i.unit * up))
  let step := i.unit * up
  let takesUpper : Option Bool :=
    match i.contains (below * up) down, i.contains ((below + 1) * up) down with
    | true, false => some false
    | false, true => some true
    | true, true => some (step < excess ||
        step = excess && (tie = .away || below % 2 = 1))
    | false, false => none
  takesUpper.map fun upper => ⟨if upper then below + 1 else below, k⟩

/-- The shortest decimal of `m * 2 ^ q`, for a positive `m`. The grids start above the number and
end where the number itself lies on one. -/
def shortest (f : FloatFormat) (tie : Tie) (m : Nat) (q : Int) : Decimal :=
  let i := Interval.around f m q
  let top : Int := (i.value / i.unit).log2 / 3 + 1
  let bottom : Int := min 0 (q - 2)
  let grids := (List.range ((top - bottom).toNat + 1)).map fun (n : Nat) => top - (n : Int)
  (grids.findSome? (i.onGrid tie)).getD ⟨0, 0⟩

end Decimal

end TriggerScript
