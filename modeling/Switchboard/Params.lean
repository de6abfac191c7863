import Switchboard.Json.Reader
import Switchboard.Json.Printer

/-!
# Parameters

Modules and processors are configured by an open table of values, from which each takes the keys
it knows. Reading a key tells a missing key from a value of the wrong type, and only a missing key
gives way to a default.
-/

namespace Switchboard

/-- What a parameter can be asked to be. -/
inductive ParamKind where
  | string
  | int
  | uint
  | float
  | bool
  | array
  deriving DecidableEq, Repr

/-- How the kind is called in messages. -/
def ParamKind.description : ParamKind → String
  | .string => "a string"
  | .int => "an integer"
  | .uint => "an unsigned integer"
  | .float => "a number"
  | .bool => "a boolean"
  | .array => "an array"

/-- Why a parameter could not be read. -/
inductive ParamError where
  | notFound (key : String)
  | wrongType (key : String) (expected : ParamKind)
  | invalid (key reason : String)
  deriving DecidableEq, Repr

namespace ParamError

/-- How a parameter error reads. -/
def message : ParamError → String
  | .notFound key => "param not found: " ++ key
  | .wrongType key expected => "param " ++ key ++ " is not " ++ expected.description
  | .invalid key reason => "param " ++ key ++ " is invalid: " ++ reason

/-- Whether the key is absent. -/
def isNotFound : ParamError → Bool
  | .notFound _ => true
  | _ => false

end ParamError

/-- A table of parameters. -/
structure Params where
  fields : Table Json

namespace Params

/-- No parameters. -/
def empty : Params := ⟨[]⟩

instance : Inhabited Params := ⟨empty⟩

/-- Two tables are equal when they hold the same keys with equal values. -/
def same (p q : Params) : Bool := Json.object p.fields == Json.object q.fields

instance : BEq Params := ⟨same⟩

/-- Binds a key. -/
def insert (p : Params) (key : String) (value : Json) : Params := ⟨p.fields.insert key value⟩

/-- Whether a key is present. -/
def contains (p : Params) (key : String) : Bool := (p.fields.find? key).isSome

/-- The number of keys. -/
def size (p : Params) : Nat := p.fields.length

/-- Whether there are no keys. -/
def isEmpty (p : Params) : Bool := p.fields.isEmpty

/-- The parameters as a structured value. -/
def toJson (p : Params) : Json := .object p.fields

/-- The value of a key. -/
def get (p : Params) (key : String) : Except ParamError Json :=
  match p.fields.find? key with
  | some value => .ok value
  | none => .error (.notFound key)

/-- The value of a key as a value of some type. -/
def getAs {α : Type} (p : Params) (key : String) (expected : ParamKind) (view : Json → Option α) :
    Except ParamError α := do
  match view (← p.get key) with
  | some value => return value
  | none => throw (.wrongType key expected)

/-- A string. -/
def getString (p : Params) (key : String) : Except ParamError String :=
  p.getAs key .string Json.asString?

/-- The value as an integer with a sign, if it is one and fits into 64 bits. -/
def int64? : Json → Option Int64
  | .number (.integer i) =>
    if -0x8000000000000000 ≤ i ∧ i < 0x8000000000000000 then some (Int64.ofInt i) else none
  | _ => none

/-- The value as an integer without a sign, if it is one and fits into 64 bits. -/
def uint64? : Json → Option UInt64
  | .number (.integer i) =>
    if 0 ≤ i ∧ i < 0x10000000000000000 then some (UInt64.ofNat i.toNat) else none
  | _ => none

/-- The value as a double, if it is a number. -/
def float? : Json → Option Float
  | .number n => some n.toFloat
  | _ => none

/-- The value as a truth value, if it is one. -/
def bool? : Json → Option Bool
  | .bool b => some b
  | _ => none

/-- The items of the value, if it is a list. -/
def array? : Json → Option (List Json)
  | .array items => some items
  | _ => none

/-- An integer with a sign. -/
def getInt (p : Params) (key : String) : Except ParamError Int64 := p.getAs key .int int64?

/-- An integer without a sign. -/
def getUint (p : Params) (key : String) : Except ParamError UInt64 := p.getAs key .uint uint64?

/-- A number; integers widen to doubles. -/
def getFloat (p : Params) (key : String) : Except ParamError Float := p.getAs key .float float?

/-- A truth value. -/
def getBool (p : Params) (key : String) : Except ParamError Bool := p.getAs key .bool bool?

/-- A list. -/
def getArray (p : Params) (key : String) : Except ParamError (List Json) := p.getAs key .array array?

/-- A port number: an integer without a sign that fits into 16 bits. -/
def getPort (p : Params) (key : String) : Except ParamError UInt16 := do
  let port ← p.getUint key
  if port.toNat < 65536 then
    return port.toUInt16
  else
    throw (.invalid key s!"{port.toNat} is not a valid port")

/-- A default in place of a missing key, and of nothing else. -/
def orDefault {α : Type} (result : Except ParamError α) (default : α) : Except ParamError α :=
  match result with
  | .error (.notFound _) => .ok default
  | other => other

/-- A string, or the default. -/
def getStringD (p : Params) (key default : String) : Except ParamError String :=
  orDefault (p.getString key) default

/-- An integer with a sign, or the default. -/
def getIntD (p : Params) (key : String) (default : Int64) : Except ParamError Int64 :=
  orDefault (p.getInt key) default

/-- An integer without a sign, or the default. -/
def getUintD (p : Params) (key : String) (default : UInt64) : Except ParamError UInt64 :=
  orDefault (p.getUint key) default

/-- A number, or the default. -/
def getFloatD (p : Params) (key : String) (default : Float) : Except ParamError Float :=
  orDefault (p.getFloat key) default

/-- A truth value, or the default. -/
def getBoolD (p : Params) (key : String) (default : Bool) : Except ParamError Bool :=
  orDefault (p.getBool key) default

/-- A port number, or the default. -/
def getPortD (p : Params) (key : String) (default : UInt16) : Except ParamError UInt16 :=
  orDefault (p.getPort key) default

end Params

end Switchboard
