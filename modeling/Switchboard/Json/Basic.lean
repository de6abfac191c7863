import Switchboard.Binary64
import Switchboard.Table

/-!
# Structured values

A value is what a document holds: null, a truth value, a number, a string, a list or a table. A
number is an integer, or a double where it was written with a fraction, an exponent or too large.
-/

namespace Switchboard

/-- A number of a document. -/
inductive JsonNumber where
  | integer (i : Int)
  | float (f : Float)

/-- A structured value. The fields of an object are in key order. -/
inductive Json where
  | null
  | bool (b : Bool)
  | number (n : JsonNumber)
  | string (s : String)
  | array (items : List Json)
  | object (fields : List (String × Json))

namespace JsonNumber

/-- Numbers are equal when they are of one kind and their values are equal. -/
def same : JsonNumber → JsonNumber → Bool
  | .integer i, .integer j => i == j
  | .float f, .float g => f == g
  | _, _ => false

/-- The number as a double: an integer goes to the nearest one. -/
def toFloat : JsonNumber → Float
  | .integer i => Binary64.ofInt i
  | .float f => f

end JsonNumber

namespace Json

mutual

/-- Equality of values; a number that is not equal to itself makes values differ. -/
def same : Json → Json → Bool
  | .null, .null => true
  | .bool a, .bool b => a == b
  | .number m, .number n => m.same n
  | .string s, .string t => s == t
  | .array xs, .array ys => sameItems xs ys
  | .object xs, .object ys => sameFields xs ys
  | _, _ => false

/-- Equality of lists of values. -/
def sameItems : List Json → List Json → Bool
  | [], [] => true
  | x :: xs, y :: ys => same x y && sameItems xs ys
  | _, _ => false

/-- Equality of tables of values. -/
def sameFields : List (String × Json) → List (String × Json) → Bool
  | [], [] => true
  | (k, x) :: xs, (l, y) :: ys => k == l && same x y && sameFields xs ys
  | _, _ => false

end

instance : BEq Json := ⟨same⟩

/-- An integer as a value. -/
def ofInt (i : Int) : Json := .number (.integer i)

/-- A double as a value; what no document can hold becomes null. -/
def ofFloat (f : Float) : Json := if f.isFinite then .number (.float f) else .null

/-- The string of a string value. -/
def asString? : Json → Option String
  | .string s => some s
  | _ => none

end Json

end Switchboard
