import Switchboard.Decimal.Shortest

/-!
# How a double is written

The digits are the fewest that read back. A layout says which of two equally near numbers is
written, which exponents are written positionally, whether a whole number keeps a point, and how an
exponent is marked.
-/

namespace Switchboard.Decimal

/-- The choices of a way of writing doubles. `least` and `greatest` bound the exponent of the
leading digit of a number that is written positionally, where they are given; `keepsPoint` keeps the
`.0` of whole numbers, and `showsPlus` the sign of positive exponents. -/
structure Layout where
  tie : Tie
  least : Option Int
  greatest : Option Int
  keepsPoint : Bool
  showsPlus : Bool

namespace Layout

/-- Plain text: never an exponent, whole numbers without a point, and a tie goes up. -/
def plain : Layout := ⟨.up, none, none, false, false⟩

/-- Values shown in messages: whole numbers keep a point, exponents begin at 10^16 and below 10^-4,
and a tie goes up. -/
def exhibit : Layout := ⟨.up, some (-4), some 15, true, false⟩

/-- Numbers in documents: whole numbers keep a point, exponents begin at 10^16 and below 10^-5 and
show their sign, and a tie goes to the even digit. -/
def document : Layout := ⟨.even, some (-5), some 15, true, true⟩

/-- Whether a number whose leading digit has the given exponent is written positionally. -/
def isPositional (l : Layout) (exponent : Int) : Bool :=
  l.least.all (· ≤ exponent) && l.greatest.all (exponent ≤ ·)

/-- A number without an exponent mark: `digits * 10 ^ exponent`. -/
def positional (l : Layout) (digits : List Char) (exponent : Int) : List Char :=
  if 0 ≤ exponent then
    digits ++ List.replicate exponent.toNat '0' ++ (if l.keepsPoint then ['.', '0'] else [])
  else
    let places := (-exponent).toNat
    if places < digits.length then
      digits.take (digits.length - places) ++ '.' :: digits.drop (digits.length - places)
    else
      '0' :: '.' :: (List.replicate (places - digits.length) '0' ++ digits)

/-- A number with one digit before the point and its exponent. -/
def exponential (l : Layout) (digits : List Char) (lead : Int) : List Char :=
  digits.take 1 ++ (if digits.length ≤ 1 then [] else '.' :: digits.drop 1) ++
    'e' :: ((if l.showsPlus && decide (0 ≤ lead) then ['+'] else []) ++ (toString lead).toList)

/-- A number without its sign. -/
def magnitude (l : Layout) (s : Scientific) : List Char :=
  let all := Nat.toDigits 10 s.digits
  -- The digits without the zeros at their end, which the exponent takes over.
  let kept := (all.reverse.dropWhile (· == '0')).reverse
  let digits := if kept.isEmpty then ['0'] else kept
  let exponent := if kept.isEmpty then 0 else s.exponent + ((all.length - kept.length : Nat) : Int)
  let lead := exponent + (digits.length : Int) - 1
  if l.isPositional lead then l.positional digits exponent else l.exponential digits lead

/-- The text of a double. -/
def write (l : Layout) (f : Float) : String :=
  match Binary64.ofFloat f with
  | .nan => "NaN"
  | .infinite negative => if negative then "-inf" else "inf"
  | .finite negative m q =>
    let scientific := if m = 0 then ⟨0, 0⟩ else shortest l.tie m q
    String.ofList ((if negative then ['-'] else []) ++ l.magnitude scientific)

end Layout

end Switchboard.Decimal
