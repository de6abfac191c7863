import Switchboard.Binary64

/-!
# Elementary functions

Functions of doubles that are made of others: the length of a hypotenuse and the cube root, which
are rounded once, the logarithm near one, and the inverse hyperbolic functions built on them.
-/

namespace Switchboard.Binary64

/-- The greatest natural number whose square is not above `n`. -/
def squareRoot (n : Nat) : Nat :=
  if n < 2 then n
  else
    let r := 2 * squareRoot (n / 4)
    if (r + 1) * (r + 1) ≤ n then r + 1 else r
termination_by n
decreasing_by omega

/-- The double nearest to the square root of `n * 4 ^ exponent`. The root is taken of so many
digits that only whether it is exact still matters, which one more bit tells. -/
def nearestRoot (n : Nat) (exponent : Int) : Float :=
  let wide := n * Nat.pow 4 64
  let root := squareRoot wide
  let sticky := if root * root = wide then 0 else 1
  let digits := 2 * root + sticky
  let scale := exponent - 65
  if 0 ≤ scale then nearest false (digits * Nat.pow 2 scale.toNat) 1
  else nearest false digits (Nat.pow 2 (-scale).toNat)

/-- The length of the hypotenuse of a right triangle. -/
def hypotenuse (x y : Float) : Float :=
  match ofFloat x, ofFloat y with
  | .infinite _, _ => infinity false
  | _, .infinite _ => infinity false
  | .finite _ m q, .finite _ n r =>
    let least := min q r
    let a := m * Nat.pow 2 (q - least).toNat
    let b := n * Nat.pow 2 (r - least).toNat
    nearestRoot (a * a + b * b) least
  | _, _ => notANumber

/-- The greatest natural number whose cube is not above `n`. -/
def cubeRoot (n : Nat) : Nat :=
  if n < 1 then 0
  else
    let r := 2 * cubeRoot (n / 8)
    if (r + 1) * (r + 1) * (r + 1) ≤ n then r + 1 else r
termination_by n
decreasing_by omega

/-- The double nearest to the cube root of a double. -/
def nearestCubeRoot (x : Float) : Float :=
  match ofFloat x with
  | .finite negative m q =>
    if m = 0 then x
    else
      -- The exponent is made a multiple of three, and 180 more bits give 60 more of the root.
      let wide := m * Nat.pow 2 ((q % 3).toNat + 180)
      let root := cubeRoot wide
      let sticky := if root * root * root = wide then 0 else 1
      let digits := 2 * root + sticky
      let scale := q / 3 - 61
      if 0 ≤ scale then nearest negative (digits * Nat.pow 2 scale.toNat) 1
      else nearest negative digits (Nat.pow 2 (-scale).toNat)
  | _ => x

/-- A magnitude with the sign of another double. -/
def withSignOf (magnitude sign : Float) : Float :=
  Float.ofBits ((magnitude.toBits &&& 0x7FFFFFFFFFFFFFFF) ||| (sign.toBits &&& 0x8000000000000000))

/-- The upper half of the bits of a double. -/
def upperHalf (x : Float) : Nat := x.toBits.toNat / 0x100000000

/-- The double with another upper half. -/
def withUpperHalf (x : Float) (upper : Nat) : Float :=
  Float.ofBits (UInt64.ofNat (upper * 0x100000000 + x.toBits.toNat % 0x100000000))

/-- The logarithm of `(1 + f) * 2 ^ k`, for an `f` between one and two's square roots less one.
`correction` is what `1 + f` lost to rounding. -/
def logReduced (f correction : Float) (k : Int) (isExactOne : Bool) : Float :=
  let ln2High := Float.ofBits 0x3FE62E42FEE00000
  let ln2Low := Float.ofBits 0x3DEA39EF35793C76
  let kf := ofInt k
  let halfSquare := 0.5 * f * f
  if isExactOne then
    if f == 0 then
      if k = 0 then 0 else kf * ln2High + (correction + kf * ln2Low)
    else
      let r := halfSquare * (1.0 - Float.ofBits 0x3FE5555555555555 * f)
      if k = 0 then f - r
      else kf * ln2High - ((r - (kf * ln2Low + correction)) - f)
  else
    let s := f / (2.0 + f)
    let z := s * s
    let r1 := z * Float.ofBits 0x3FE5555555555593
    let z2 := z * z
    let r2 := Float.ofBits 0x3FD999999997FA04 + z * Float.ofBits 0x3FD2492494229359
    let z4 := z2 * z2
    let r3 := Float.ofBits 0x3FCC71C51D8E78AF + z * Float.ofBits 0x3FC7466496CB03DE
    let z6 := z4 * z2
    let r4 := Float.ofBits 0x3FC39A09D078C69F + z * Float.ofBits 0x3FC2F112DF3E5244
    let r := r1 + z2 * r2 + z4 * r3 + z6 * r4
    if k = 0 then f - (halfSquare - s * (halfSquare + r))
    else kf * ln2High - ((halfSquare - (s * (halfSquare + r) + (kf * ln2Low + correction))) - f)

/-- The logarithm of one more than a double. -/
def logOfOnePlus (x : Float) : Float :=
  let size := upperHalf x.abs
  if x.isNaN then notANumber
  else if x < -1.0 then notANumber
  else if x == -1.0 then infinity true
  else if x.isInf then x
  else if size < 0x3E200000 then
    if size < 0x3C900000 then x else x - x * x * 0.5
  else if size < 0x3FDA827A && (0 < x || upperHalf x ≤ 0xBFD2BEC3) then
    logReduced x 0 0 false
  else
    -- The logarithm is that of a number near one and of a power of two.
    let u := if size < 0x43400000 then 1.0 + x else x
    let hu := upperHalf u
    let k : Int := (hu / 0x100000 : Nat) - (1023 : Int)
    let correction :=
      if size < 0x43400000 then (if 0 < k then 1.0 - (u - x) else x - (u - 1.0)) / u else 0
    let hu := hu % 0x100000
    if hu < 0x6A09E then
      logReduced (withUpperHalf u (hu + 0x3FF00000) - 1.0) correction k (hu == 0)
    else
      logReduced (withUpperHalf u (hu + 0x3FE00000) - 1.0) correction (k + 1)
        ((0x100000 - hu) / 4 == 0)

/-- The inverse hyperbolic sine. -/
def inverseSinh (x : Float) : Float :=
  let size := x.abs
  let inverse := 1.0 / size
  withSignOf (logOfOnePlus (size + size / (hypotenuse 1.0 inverse + inverse))) x

/-- The inverse hyperbolic cosine. -/
def inverseCosh (x : Float) : Float :=
  if x < 1.0 then notANumber
  else Float.log (x + Float.sqrt (x - 1.0) * Float.sqrt (x + 1.0))

/-- The inverse hyperbolic tangent. -/
def inverseTanh (x : Float) : Float :=
  let size := x.abs
  withSignOf (0.5 * logOfOnePlus (2.0 * size / (1.0 - size))) x

end Switchboard.Binary64
