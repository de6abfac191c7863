import Switchboard.Binary64.Elementary
import Switchboard.Expression.Tree
import Switchboard.Text.Case
import Switchboard.Text.Utf8

/-!
# Functions of expressions

A function takes one value; one that needs several takes a tuple. A text is cut by the bytes of its
UTF-8 form. A cut inside a character, a shift by a number of bits that an integer does not have, and
the distance of the least integer from zero end the program that asks for them.
-/

namespace Switchboard.Expression

/-! ## Errors -/

/-- What a value should have been. -/
inductive Expected where
  | string
  | int
  | number
  | numberOrString
  | boolean
  | tuple
  | length (n : Nat)
  | lengths (low high : Nat)
  | oneOf (kinds : List String)
  deriving DecidableEq, Repr

/-- How the expectation reads. -/
def Expected.describe : Expected → String
  | .string => "a Value::String"
  | .int => "a Value::Int"
  | .number => "a Value::Float or Value::Int"
  | .numberOrString => "a Value::Number or a Value::String"
  | .boolean => "a Value::Boolean"
  | .tuple => "a Value::Tuple"
  | .length n => s!"a Value::Tuple of length {n}"
  | .lengths low high => s!"a Value::Tuple of length {low} to {high}"
  | .oneOf kinds => "one of [" ++ String.intercalate ", " kinds ++ "]"

/-- Why an expression has no value. -/
inductive EvalError where
  | wrongCount (expected actual : Nat)
  | wrongKind (expected : Expected) (actual : Value)
  | wrongCombination (kinds : List String)
  | arithmetic (verb sign : String) (a b : Int64)
  | negation (a : Int64)
  | unboundVariable (name : String)
  | unboundFunction (name : String)
  | outOfBounds
  | notMutable

/-- How the error reads. -/
def EvalError.message : EvalError → String
  | .wrongCount expected actual =>
    s!"An operator expected {expected} arguments, but got {actual}."
  | .wrongKind expected actual =>
    "Expected " ++ expected.describe ++ ", but got " ++ actual.exhibit ++ "."
  | .wrongCombination kinds =>
    "The operator Add was called with a wrong combination of types: [" ++
      String.intercalate ", " kinds ++ "]"
  | .arithmetic verb sign a b => s!"Error {verb} {a.toInt} {sign} {b.toInt}"
  | .negation a => s!"Error negating -{a.toInt}"
  | .unboundVariable name =>
    "Variable identifier is not bound to anything by context: " ++ Text.quoted name ++ "."
  | .unboundFunction name =>
    "Function identifier is not bound to anything by context: " ++ Text.quoted name ++ "."
  | .outOfBounds => "Tried to access a tuple or string at an invalid index"
  | .notMutable => "Cannot manipulate context"

/-- How an evaluation ends without a value. A crash ends the program that evaluates. -/
inductive Halt where
  | error (e : EvalError)
  | crash

/-! ## Views of values -/

namespace Value

/-- A value that is not of the expected kind. -/
def refuse {α : Type} (v : Value) (expected : Expected) : Except Halt α :=
  .error (.error (.wrongKind expected v))

/-- The text of a value. -/
def asString : Value → Except Halt String
  | .string s => .ok s
  | v => v.refuse .string

/-- The integer of a value. -/
def asInt : Value → Except Halt Int64
  | .int i => .ok i
  | v => v.refuse .int

/-- The number of a value. -/
def asNumber : Value → Except Halt Float
  | .float f => .ok f
  | .int i => .ok (Binary64.ofInt i.toInt)
  | v => v.refuse .number

/-- The truth value of a value. -/
def asBoolean : Value → Except Halt Bool
  | .boolean b => .ok b
  | v => v.refuse .boolean

/-- The items of a value. -/
def asTuple : Value → Except Halt (List Value)
  | .tuple items => .ok items
  | v => v.refuse .tuple

/-- The two items of a value. -/
def asPair : Value → Except Halt (Value × Value)
  | .tuple [a, b] => .ok (a, b)
  | .tuple items => (Value.tuple items).refuse (.length 2)
  | v => v.refuse .tuple

/-- The three items of a value. -/
def asTriple : Value → Except Halt (Value × Value × Value)
  | .tuple [a, b, c] => .ok (a, b, c)
  | .tuple items => (Value.tuple items).refuse (.length 3)
  | v => v.refuse .tuple

/-- Whether a value can be looked for in a tuple. -/
def isScalar : Value → Bool
  | .tuple _ => false
  | .empty => false
  | _ => true

end Value

/-! ## The functions -/

/-- A number of a number. -/
def ofNumber (f : Float → Float) (v : Value) : Except Halt Value := do
  return .float (f (← v.asNumber))

/-- A number of two numbers. -/
def ofNumbers (f : Float → Float → Float) (v : Value) : Except Halt Value := do
  let (a, b) ← v.asPair
  let a ← a.asNumber
  return .float (f a (← b.asNumber))

/-- A truth value of a number. -/
def whether (f : Float → Bool) (v : Value) : Except Halt Value := do
  return .boolean (f (← v.asNumber))

/-- A text of a text. -/
def ofString (f : String → String) (v : Value) : Except Halt Value := do
  return .string (f (← v.asString))

/-- An integer of two integers. -/
def ofInts (f : Int64 → Int64 → Int64) (v : Value) : Except Halt Value := do
  let (a, b) ← v.asPair
  let a ← a.asInt
  return .int (f a (← b.asInt))

/-- An integer whose bits are shifted by a number of places, which an integer must have. -/
def shift (f : Int64 → Int64 → Int64) (v : Value) : Except Halt Value := do
  let (a, b) ← v.asPair
  let a ← a.asInt
  let b ← b.asInt
  if b < 0 ∨ 64 ≤ b then throw .crash
  return .int (f a b)

/-- Whether a double is neither zero nor infinite, nor too small to have all its digits. -/
def isNormal (f : Float) : Bool :=
  match Binary64.ofFloat f with
  | .finite _ m _ => decide (0x10000000000000 ≤ m)
  | _ => false

/-- The distance of a number from zero; that of the least integer is out of range. -/
def absolute : Value → Except Halt Value
  | .float f => .ok (.float f.abs)
  | .int i =>
    if i = Int64.minValue then .error .crash
    else .ok (.int (if i < 0 then -i else i))
  | v => v.refuse .number

/-- The numbers of a tuple reduced by kind, from a least and a greatest start on. -/
def reduceNumbers (better : Float → Float → Bool) (betterInt : Int64 → Int64 → Bool) :
    (int : Int64) → (float : Float) → List Value → Except Halt (Int64 × Float)
  | int, float, [] => .ok (int, float)
  | int, float, .float f :: rest =>
    reduceNumbers better betterInt int (if better f float then f else float) rest
  | int, float, .int i :: rest =>
    reduceNumbers better betterInt (if betterInt i int then i else int) float rest
  | _, _, v :: _ => v.refuse .number

/-- The greatest number of a tuple, or the least one. The integer must be better than the double
to be chosen. -/
def extreme (greatest : Bool) (v : Value) : Except Halt Value := do
  let better (a b : Float) : Bool := if greatest then b < a else a < b
  let betterInt (a b : Int64) : Bool := if greatest then b < a else a < b
  let (int, float) ← reduceNumbers better betterInt
    (if greatest then Int64.minValue else Int64.maxValue) (Binary64.infinity greatest)
    (← v.asTuple)
  return if better (Binary64.ofInt int.toInt) float then .int int else .float float

/-- The second item of a tuple if the first is true, else the third. -/
def choose (v : Value) : Except Halt Value := do
  let (condition, a, b) ← v.asTriple
  return if ← condition.asBoolean then a else b

/-- A value that can be looked for in a tuple. -/
def searchable (v : Value) : Except Halt Value :=
  if v.isScalar then .ok v else v.refuse (.oneOf ["String", "Int", "Float", "Boolean"])

/-- Whether a tuple holds a value. -/
def contains (v : Value) : Except Halt Value := do
  let (a, b) ← v.asPair
  let items ← a.asTuple
  return .boolean (items.contains (← searchable b))

/-- Whether a tuple holds one of the values of another. -/
def containsAny (v : Value) : Except Halt Value := do
  let (a, b) ← v.asPair
  let items ← a.asTuple
  let wanted ← (← b.asTuple).mapM searchable
  return .boolean (wanted.any items.contains)

/-- The number of bytes of a text or of items of a tuple. -/
def size : Value → Except Halt Value
  | .string s => .ok (.int (Int64.ofNat s.utf8ByteSize))
  | .tuple items => .ok (.int (Int64.ofNat items.length))
  | v => v.refuse (.oneOf ["String", "Tuple"])

/-- An index as a natural number. -/
def index (i : Int64) : Except Halt Nat :=
  if i < 0 then .error (.error .outOfBounds) else .ok i.toInt.toNat

/-- The bytes of a text from `start` to `stop`. Both must be bounds of characters. -/
def cut (s : String) (start stop : Nat) : Except Halt Value :=
  let bytes := Utf8.encode s
  if stop < start ∨ bytes.length < stop then .error (.error .outOfBounds)
  else
    match Utf8.decode (bytes.take start), Utf8.decode ((bytes.take stop).drop start) with
    | .ok _, .ok part => .ok (.string part)
    | _, _ => .error .crash

/-- A part of a text. -/
def substring (v : Value) : Except Halt Value := do
  let (s, first, last?) ← match v with
    | .tuple [s, first] => pure (s, first, none)
    | .tuple [s, first, last] => pure (s, first, some last)
    | .tuple items => (Value.tuple items).refuse (.lengths 2 3)
    | v => v.refuse .tuple
  let s ← s.asString
  let start ← index (← first.asInt)
  let stop ← match last? with
    | some last => do index (← last.asInt)
    | none => pure s.utf8ByteSize
  cut s start stop

/-- The function of a name. -/
def function? (name : String) : Option (Value → Except Halt Value) :=
  match name with
  | "math::ln" => some (ofNumber Float.log)
  | "math::log" => some (ofNumbers fun a b => a.log / b.log)
  | "math::log2" => some (ofNumber Float.log2)
  | "math::log10" => some (ofNumber Float.log10)
  | "math::exp" => some (ofNumber Float.exp)
  | "math::exp2" => some (ofNumber Float.exp2)
  | "math::pow" => some (ofNumbers Float.pow)
  | "math::cos" => some (ofNumber Float.cos)
  | "math::acos" => some (ofNumber Float.acos)
  | "math::cosh" => some (ofNumber Float.cosh)
  | "math::acosh" => some (ofNumber Binary64.inverseCosh)
  | "math::sin" => some (ofNumber Float.sin)
  | "math::asin" => some (ofNumber Float.asin)
  | "math::sinh" => some (ofNumber Float.sinh)
  | "math::asinh" => some (ofNumber Binary64.inverseSinh)
  | "math::tan" => some (ofNumber Float.tan)
  | "math::atan" => some (ofNumber Float.atan)
  | "math::tanh" => some (ofNumber Float.tanh)
  | "math::atanh" => some (ofNumber Binary64.inverseTanh)
  | "math::atan2" => some (ofNumbers Float.atan2)
  | "math::sqrt" => some (ofNumber Float.sqrt)
  | "math::cbrt" => some (ofNumber Binary64.nearestCubeRoot)
  | "math::hypot" => some (ofNumbers Binary64.hypotenuse)
  | "floor" => some (ofNumber Float.floor)
  | "round" => some (ofNumber Float.round)
  | "ceil" => some (ofNumber Float.ceil)
  | "math::is_nan" => some (whether Float.isNaN)
  | "math::is_finite" => some (whether Float.isFinite)
  | "math::is_infinite" => some (whether Float.isInf)
  | "math::is_normal" => some (whether isNormal)
  | "math::abs" => some absolute
  | "typeof" => some fun v => .ok (.string (String.ofList (v.kind.toList.map Char.toLower)))
  | "min" => some (extreme false)
  | "max" => some (extreme true)
  | "if" => some choose
  | "contains" => some contains
  | "contains_any" => some containsAny
  | "len" => some size
  | "str::to_lowercase" => some (ofString Text.toLower)
  | "str::to_uppercase" => some (ofString Text.toUpper)
  | "str::trim" => some (ofString Text.trim)
  | "str::from" => some fun v => .ok (.string v.toText)
  | "str::substring" => some substring
  | "bitand" => some (ofInts fun a b => a &&& b)
  | "bitor" => some (ofInts fun a b => a ||| b)
  | "bitxor" => some (ofInts fun a b => a ^^^ b)
  | "bitnot" => some fun v => do return .int (~~~(← v.asInt))
  | "shl" => some (shift fun a b => a <<< b)
  | "shr" => some (shift fun a b => a >>> b)
  | _ => none

end Switchboard.Expression
