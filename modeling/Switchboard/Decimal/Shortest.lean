import Switchboard.Binary64

/-!
# The fewest digits that read back

Every double is the one nearest to a whole interval of numbers. Its shortest text names the number
of that interval with the fewest digits, and among those the one nearest to the double; which of two
that are equally near is a choice of the format. The search runs over grids of 1, 2, … 17 digits; on
each only the two neighbours of the double count, since a grid point of the interval leaves one of
the neighbours in it.
-/

namespace Switchboard.Decimal

/-- The number of decimal digits; zero has one. -/
def digitCount (n : Nat) : Nat := (Nat.toDigits 10 n).length

/-- The `e` with `10 ^ e ≤ num / den < 10 ^ (e + 1)`. -/
def decade (num den : Nat) : Int :=
  if den ≤ num then
    (digitCount (num / den) : Int) - 1
  else
    -(digitCount ((den + num - 1) / num - 1) : Int)

/-- The number `digits * 10 ^ exponent`. The digits are read as one number, and the exponent is that
of the last of them. -/
structure Scientific where
  digits : Nat
  exponent : Int
  deriving DecidableEq, Repr

/-- The numbers that a double is nearest to, as numerators over one denominator. The ends and the
double itself have a common denominator. -/
structure Interval where
  low : Nat
  value : Nat
  high : Nat
  den : Nat
  closed : Bool

/-- The interval of `m * 2 ^ q`. Below a power of two the neighbour is half as far away. -/
def Interval.ofParts (m : Nat) (q : Int) : Interval :=
  let unit := Nat.pow 2 (q - 2).toNat
  let below := if m = 0x10000000000000 ∧ -1074 < q then 1 else 2
  ⟨(4 * m - below) * unit, 4 * m * unit, (4 * m + 2) * unit, Nat.pow 2 (2 - q).toNat, m % 2 = 0⟩

/-- Whether `num / den` lies in the interval, both over the denominator of the interval. -/
def Interval.contains (i : Interval) (num den : Nat) : Bool :=
  if i.closed then
    decide (i.low * den ≤ num * i.den) && decide (num * i.den ≤ i.high * den)
  else
    decide (i.low * den < num * i.den) && decide (num * i.den < i.high * den)

/-- Which of two numbers that are equally near is taken. Of two equally near numbers it takes the
greater one or the one whose last digit is even. -/
inductive Tie where
  | up
  | even
  deriving DecidableEq, Repr

/-- Whether the greater of two numbers that are equally near is taken, when the last digits of the
lesser one are given. -/
def Tie.goesUp (below : Nat) : Tie → Bool
  | .up => true
  | .even => below % 2 == 1

/-- The nearer of the two neighbours of the value on the grid `10 ^ exponent` that lies in the
interval, if one does. -/
def Interval.onGrid (i : Interval) (tie : Tie) (exponent : Int) : Option Scientific :=
  let up := Nat.pow 10 exponent.toNat
  let down := Nat.pow 10 (-exponent).toNat
  let below := i.value * down / (i.den * up)
  let rest := i.value * down % (i.den * up)
  let belowIn := i.contains (below * up) down
  let aboveIn := i.contains ((below + 1) * up) down
  let aboveNearer := i.den * up < 2 * rest || (2 * rest == i.den * up && tie.goesUp below)
  if belowIn && !(aboveIn && aboveNearer) then some ⟨below, exponent⟩
  else if aboveIn then some ⟨below + 1, exponent⟩
  else none

/-- The shortest number that reads back as `m * 2 ^ q`. -/
def shortest (tie : Tie) (m : Nat) (q : Int) : Scientific :=
  let i := Interval.ofParts m q
  let top := decade i.value i.den
  let grids := (List.range 17).map fun (n : Nat) => top - (n : Int)
  (grids.findSome? (i.onGrid tie)).getD ⟨m, 0⟩

end Switchboard.Decimal
