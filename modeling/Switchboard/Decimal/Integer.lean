/-!
# Signed integers as text

An optional sign and one or more digits. The digits are taken from the left, so a value that has
already left the range is reported before a bad character further right.
-/

namespace Switchboard.Decimal

/-- Why a text is not an integer of 64 bits. -/
inductive IntegerError where
  | empty
  | invalidDigit
  | tooLarge
  | tooSmall
  deriving DecidableEq, Repr

/-- How the error reads. -/
def IntegerError.message : IntegerError → String
  | .empty => "cannot parse integer from empty string"
  | .invalidDigit => "invalid digit found in string"
  | .tooLarge => "number too large to fit in target type"
  | .tooSmall => "number too small to fit in target type"

/-- Whether a value fits into 64 bits with a sign. -/
def FitsInt64 (i : Int) : Prop := -0x8000000000000000 ≤ i ∧ i < 0x8000000000000000

instance (i : Int) : Decidable (FitsInt64 i) := inferInstanceAs (Decidable (_ ∧ _))

/-- The value of a digit in the given radix, which is at most 36. -/
def digitValue? (radix : Nat) (c : Char) : Option Nat :=
  let value :=
    if c.isDigit then some (c.toNat - '0'.toNat)
    else if 'a' ≤ c ∧ c ≤ 'z' then some (c.toNat - 'a'.toNat + 10)
    else if 'A' ≤ c ∧ c ≤ 'Z' then some (c.toNat - 'A'.toNat + 10)
    else none
  value.filter (· < radix)

/-- Appends digits to `value`, away from zero on the side of the sign. -/
def readDigits (radix : Nat) (negative : Bool) (value : Int) : List Char → Except IntegerError Int
  | [] => .ok value
  | c :: rest =>
    match digitValue? radix c with
    | none => .error .invalidDigit
    | some d =>
      let next := if negative then value * radix - d else value * radix + d
      if FitsInt64 next then readDigits radix negative next rest
      else .error (if negative then .tooSmall else .tooLarge)

/-- Reads an integer of 64 bits in the given radix. -/
def readInteger (radix : Nat) (cs : List Char) : Except IntegerError Int :=
  match cs with
  | [] => .error .empty
  | ['+'] => .error .invalidDigit
  | ['-'] => .error .invalidDigit
  | '+' :: digits => readDigits radix false 0 digits
  | '-' :: digits => readDigits radix true 0 digits
  | digits => readDigits radix false 0 digits

end Switchboard.Decimal
