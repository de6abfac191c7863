import Switchboard.Binary64
import Switchboard.Decimal.Layout
import Switchboard.Text.Quoted

/-!
# Values of expressions

An expression works on texts, integers of 64 bits, doubles, truth values, tuples of values, and the
empty value.
-/

namespace Switchboard.Expression

/-- A value. -/
inductive Value where
  | string (s : String)
  | float (f : Float)
  | int (i : Int64)
  | boolean (b : Bool)
  | tuple (items : List Value)
  | empty

namespace Value

/-- The name of the kind. -/
def kind : Value → String
  | .string _ => "String"
  | .float _ => "Float"
  | .int _ => "Int"
  | .boolean _ => "Boolean"
  | .tuple _ => "Tuple"
  | .empty => "Empty"

mutual

/-- Equality of values of one kind; an integer is not equal to a double. -/
def same : Value → Value → Bool
  | .string s, .string t => s == t
  | .float f, .float g => f == g
  | .int i, .int j => i == j
  | .boolean a, .boolean b => a == b
  | .tuple xs, .tuple ys => sameItems xs ys
  | .empty, .empty => true
  | _, _ => false

/-- Equality of lists of values. -/
def sameItems : List Value → List Value → Bool
  | [], [] => true
  | x :: xs, y :: ys => same x y && sameItems xs ys
  | _, _ => false

end

instance : BEq Value := ⟨same⟩

/-- A truth value as a word. -/
def wordOf (b : Bool) : String := if b then "true" else "false"

mutual

/-- The value with its kind, as messages show it. -/
def exhibit : Value → String
  | .string s => "String(" ++ Text.quoted s ++ ")"
  | .float f => "Float(" ++ Decimal.Layout.exhibit.write f ++ ")"
  | .int i => "Int(" ++ toString i.toInt ++ ")"
  | .boolean b => "Boolean(" ++ wordOf b ++ ")"
  | .tuple items => "Tuple([" ++ String.intercalate ", " (exhibits items) ++ "])"
  | .empty => "Empty"

/-- The values of a list with their kinds. -/
def exhibits : List Value → List String
  | [] => []
  | item :: rest => exhibit item :: exhibits rest

end

mutual

/-- The value as a part of a text; a text stands between quotes. -/
def display : Value → String
  | .string s => "\"" ++ s ++ "\""
  | .float f => Decimal.Layout.plain.write f
  | .int i => toString i.toInt
  | .boolean b => wordOf b
  | .tuple items => "(" ++ String.intercalate ", " (displays items) ++ ")"
  | .empty => "()"

/-- The values of a list as parts of a text. -/
def displays : List Value → List String
  | [] => []
  | item :: rest => display item :: displays rest

end

/-- The value as a text; a text stands for itself. -/
def toText : Value → String
  | .string s => s
  | value => value.display

end Value

end Switchboard.Expression
