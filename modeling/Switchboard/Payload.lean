import Switchboard.Json.Printer
import Switchboard.Text.Utf8

/-!
# Payloads

A payload is the value that travels from a source module through the processors of a route to a
destination module.
-/

namespace Switchboard

/-- A value on its way through a route. -/
inductive Payload where
  | bytes (b : Bytes)
  | text (s : String)
  | int (i : Int64)
  | float (f : Float)
  | bool (b : Bool)
  | json (j : Json)

/-- A payload is of another kind than its receiver handles. -/
structure PayloadError where
  expected : String
  actual : String
  deriving DecidableEq, Repr

/-- How a payload error reads. -/
def PayloadError.message (e : PayloadError) : String :=
  "expected " ++ e.expected ++ " payload, got " ++ e.actual

namespace Payload

/-- The name of the kind. -/
def kind : Payload → String
  | .bytes _ => "bytes"
  | .text _ => "text"
  | .int _ => "int"
  | .float _ => "float"
  | .bool _ => "bool"
  | .json _ => "json"

/-- The error of a receiver that handles something else. -/
def mismatch (p : Payload) (expected : String) : PayloadError := ⟨expected, p.kind⟩

/-- The bytes of a bytes payload. -/
def asBytes : Payload → Except PayloadError Bytes
  | .bytes b => .ok b
  | p => .error (p.mismatch "bytes")

/-- The text of a text payload. -/
def asText : Payload → Except PayloadError String
  | .text s => .ok s
  | p => .error (p.mismatch "text")

/-- The integer of an integer payload. -/
def asInt : Payload → Except PayloadError Int64
  | .int i => .ok i
  | p => .error (p.mismatch "int")

/-- The double of a number payload; an integer widens to the nearest one. -/
def asFloat : Payload → Except PayloadError Float
  | .float f => .ok f
  | .int i => .ok (Binary64.ofInt i.toInt)
  | p => .error (p.mismatch "float")

/-- The truth value of a bool payload. -/
def asBool : Payload → Except PayloadError Bool
  | .bool b => .ok b
  | p => .error (p.mismatch "bool")

/-- The structured value of a json payload. -/
def asJson : Payload → Except PayloadError Json
  | .json j => .ok j
  | p => .error (p.mismatch "json")

/-- What a writer sends: bytes as they are, a text as UTF-8. -/
def intoBytes : Payload → Except PayloadError Bytes
  | .bytes b => .ok b
  | .text s => .ok (Utf8.encode s)
  | p => .error (p.mismatch "bytes")

/-- The payload as text. Bytes that are not UTF-8 show as U+FFFD. -/
def display : Payload → String
  | .bytes b => Utf8.decodeLossy b
  | .text s => s
  | .int i => toString i.toInt
  | .float f => Decimal.Layout.plain.write f
  | .bool b => if b then "true" else "false"
  | .json j => j.text

/-- Payloads are equal when they are of one kind and their values are equal. -/
def same : Payload → Payload → Bool
  | .bytes a, .bytes b => a == b
  | .text a, .text b => a == b
  | .int a, .int b => a == b
  | .float a, .float b => a == b
  | .bool a, .bool b => a == b
  | .json a, .json b => a == b
  | _, _ => false

instance : BEq Payload := ⟨same⟩

end Payload

end Switchboard
