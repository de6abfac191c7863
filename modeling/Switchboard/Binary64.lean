/-!
# Doubles as exact numbers

A finite double is m · 2^q with a natural number m. Taking a double apart and rounding a quotient
of natural numbers to the nearest double are exact here, so that texts and the operations built on
them need no inexact step.
-/

namespace Switchboard

/-- A double taken apart. -/
inductive Binary64 where
  | nan
  | infinite (negative : Bool)
  | finite (negative : Bool) (mantissa : Nat) (exponent : Int)
  deriving DecidableEq, Repr

namespace Binary64

/-- The parts of a double of the given bits. -/
def ofBits (bits : UInt64) : Binary64 :=
  let n := bits.toNat
  let negative := decide (0x8000000000000000 ≤ n)
  let field : Nat := n / 0x10000000000000 % 2048
  let fraction : Nat := n % 0x10000000000000
  if field = 2047 then
    if fraction = 0 then .infinite negative else .nan
  else if field = 0 then
    .finite negative fraction (-1074)
  else
    .finite negative (fraction + 0x10000000000000) ((field : Int) - 1075)

/-- The parts of a double. -/
def ofFloat (f : Float) : Binary64 := ofBits f.toBits

/-- A quotient of natural numbers rounded to the nearest one, a half to the even one. -/
def roundQuotient (num den : Nat) : Nat :=
  let quotient := num / den
  let rest := num % den
  if den < 2 * rest ∨ (2 * rest = den ∧ quotient % 2 = 1) then quotient + 1 else quotient

/-- The numerator and denominator of `num / den / 2 ^ exponent`. -/
def scaled (num den : Nat) (exponent : Int) : Nat × Nat :=
  if 0 ≤ exponent then (num, den * Nat.pow 2 exponent.toNat) else (num * Nat.pow 2 (-exponent).toNat, den)

/-- The bits of the double nearest to `num / den`, a tie to the even mantissa; the infinity when
the quotient is too large. -/
def nearestBits (num den : Nat) : Nat :=
  if num = 0 then
    0
  else
    -- The quotient lies between the powers 2 ^ (size - 1) and 2 ^ (size + 1).
    let size : Int := (Nat.log2 num : Int) - (Nat.log2 den : Int)
    let first := max (-1074) (size - 53)
    let exponent := if 0x20000000000000 ≤ (scaled num den first).1 / (scaled num den first).2 then
      first + 1 else first
    let mantissa := roundQuotient (scaled num den exponent).1 (scaled num den exponent).2
    -- A mantissa of 2 ^ 53 carries into the exponent field.
    let bits := (exponent + 1074).toNat * 0x10000000000000 + mantissa
    if 0x7FF0000000000000 ≤ bits then 0x7FF0000000000000 else bits

/-- The double nearest to `num / den`, or its negative. -/
def nearest (negative : Bool) (num den : Nat) : Float :=
  Float.ofBits (UInt64.ofNat (nearestBits num den + if negative then 0x8000000000000000 else 0))

/-- The double nearest to an integer. -/
def ofInt (i : Int) : Float := nearest (decide (i < 0)) i.natAbs 1

/-- A double that is not a number. -/
def notANumber : Float := Float.ofBits 0x7FF8000000000000

/-- An infinity. -/
def infinity (negative : Bool) : Float :=
  Float.ofBits (if negative then 0xFFF0000000000000 else 0x7FF0000000000000)

/-- What is left of `x` when the greatest multiple of `y` that is not larger is taken away, with
the sign of `x`. It is always exact. -/
def remainder (x y : Float) : Float :=
  match ofFloat x, ofFloat y with
  | .finite negative m q, .finite _ n r =>
    if n = 0 then
      notANumber
    else
      let least := min q r
      let rest := (m * Nat.pow 2 (q - least).toNat) % (n * Nat.pow 2 (r - least).toNat)
      if 0 ≤ least then
        nearest negative (rest * Nat.pow 2 least.toNat) 1
      else
        nearest negative rest (Nat.pow 2 (-least).toNat)
  | .finite .., .infinite _ => x
  | _, _ => notANumber

end Binary64

end Switchboard
