import Switchboard.Binary64
import Switchboard.Decimal.Shortest

/-!
# Numbers as text

An optional sign, then digits with at most one point among them and at least one digit, then an
optional exponent; or the word for an infinity or for what is not a number, in any case. The value
is the nearest double.
-/

namespace Switchboard.Decimal

/-- Why a text is not a number. -/
inductive NumberError where
  | empty
  | invalid
  deriving DecidableEq, Repr

/-- How the error reads. -/
def NumberError.message : NumberError → String
  | .empty => "cannot parse float from empty string"
  | .invalid => "invalid float literal"

/-- The value of decimal digits. -/
def digitsValue (digits : List Char) : Nat :=
  digits.foldl (fun value c => value * 10 + (c.toNat - '0'.toNat)) 0

/-- The double nearest to `digits * 10 ^ exponent`, or its negative. Exponents that are far out
of range are settled by the number of digits. -/
def nearestDecimal (negative : Bool) (digits : Nat) (exponent : Int) : Float :=
  let lead := exponent + (digitCount digits : Int)
  if digits = 0 then Binary64.nearest negative 0 1
  else if 310 < lead then Binary64.infinity negative
  else if lead < -330 then Binary64.nearest negative 0 1
  else if 0 ≤ exponent then Binary64.nearest negative (digits * Nat.pow 10 exponent.toNat) 1
  else Binary64.nearest negative digits (Nat.pow 10 (-exponent).toNat)

/-- The exponent after its mark: an optional sign and one or more digits. -/
def readExponent (cs : List Char) : Option Int :=
  let (negative, digits) := match cs with
    | '+' :: rest => (false, rest)
    | '-' :: rest => (true, rest)
    | rest => (false, rest)
  if digits.isEmpty || !digits.all Char.isDigit then none
  else some (if negative then -(digitsValue digits : Int) else digitsValue digits)

/-- A number without a sign, made of digits. -/
def readMagnitude (negative : Bool) (cs : List Char) : Option Float :=
  let whole := cs.takeWhile Char.isDigit
  let afterWhole := cs.dropWhile Char.isDigit
  let (fraction, rest) := match afterWhole with
    | '.' :: more => (more.takeWhile Char.isDigit, more.dropWhile Char.isDigit)
    | more => ([], more)
  if whole.isEmpty && fraction.isEmpty then
    none
  else
    let mark : Option Int := match rest with
      | [] => some 0
      | c :: more => if c == 'e' || c == 'E' then readExponent more else none
    mark.map fun exponent =>
      nearestDecimal negative (digitsValue (whole ++ fraction)) (exponent - (fraction.length : Int))

/-- Reads a number. -/
def readNumber (cs : List Char) : Except NumberError Float :=
  if cs.isEmpty then
    .error .empty
  else
    let (negative, rest) := match cs with
      | '+' :: rest => (false, rest)
      | '-' :: rest => (true, rest)
      | rest => (false, rest)
    let word := String.ofList (rest.map Char.toLower)
    if word == "inf" || word == "infinity" then .ok (Binary64.infinity negative)
    else if word == "nan" then .ok Binary64.notANumber
    else match readMagnitude negative rest with
      | some value => .ok value
      | none => .error .invalid

end Switchboard.Decimal
