import Switchboard.Decimal.Integer
import Switchboard.Decimal.Number
import Switchboard.Processor.Basic
import Switchboard.Text.Blank
import Switchboard.Text.Quoted

/-!
# Numbers: reading, scaling and clamping
-/

namespace Switchboard.Processor

/-! ## Reading -/

/-- Reads a text without the white space around it; a failure quotes the text as it came. -/
def parseWith {α : Type} (read : List Char → Except String α) (kind : String) (f : α → Payload)
    (p : Payload) : Processed :=
  .ofView p.asText fun s =>
    match read (Text.trimBlank s.toList) with
    | .ok value => .passed (f value)
    | .error reason =>
      .failed (.invalidInput (Text.quoted s ++ " is not " ++ kind ++ ": " ++ reason))

/-- Reads an integer. -/
def parseInt : Payload → Processed :=
  parseWith (fun cs => (Decimal.readInteger 10 cs).mapError Decimal.IntegerError.message)
    "an integer" fun i => .int (Int64.ofInt i)

/-- Reads a number. -/
def parseFloat : Payload → Processed :=
  parseWith (fun cs => (Decimal.readNumber cs).mapError Decimal.NumberError.message)
    "a number" .float

/-- Reads integers. -/
def intParse : Processor := .quiet "int.parse" parseInt

/-- Reads numbers. -/
def floatParse : Processor := .quiet "float.parse" parseFloat

/-! ## Scaling -/

/-- A linear map from one range of numbers to another. `inMin` is taken to `outMin` and `inMax` to
`outMax`. -/
structure Scale where
  inMin : Float
  inMax : Float
  outMin : Float
  outMax : Float

namespace Scale

/-- The map of the given parameters. The two ends of the first range must differ. -/
def ofParams (params : Params) : Except ProcessError Scale := do
  let inMin ← ProcessError.ofParam (params.getFloat "in_min")
  let inMax ← ProcessError.ofParam (params.getFloat "in_max")
  let outMin ← ProcessError.ofParam (params.getFloat "out_min")
  let outMax ← ProcessError.ofParam (params.getFloat "out_max")
  if inMin == inMax then throw (.param (.invalid "in_max" "input range is empty"))
  return ⟨inMin, inMax, outMin, outMax⟩

/-- What a number is taken to. -/
def apply (s : Scale) (v : Float) : Float :=
  s.outMin + (v - s.inMin) / (s.inMax - s.inMin) * (s.outMax - s.outMin)

end Scale

/-- Builds a step that scales numbers. -/
def floatScale : ProcessorConstructor := fun params => do
  let scale ← Scale.ofParams params
  return .quiet "float.scale" fun p => .ofView p.asFloat fun v => .passed (.float (scale.apply v))

/-! ## Clamping -/

/-- The number of a range that is nearest to a number. There is none when a bound is not a number
or the bounds are in the wrong order. -/
def clamp? (min max v : Float) : Option Float :=
  if min ≤ max then
    let raised := if v < min then min else v
    some (if max < raised then max else raised)
  else none

/-- Keeps numbers within bounds. -/
def clampNumber (min max : Float) (p : Payload) : Processed :=
  .ofView p.asFloat fun v =>
    match clamp? min max v with
    | some clamped => .passed (.float clamped)
    | none => .crashed

/-- Builds a step that keeps numbers within bounds, which must be in order. -/
def floatClamp : ProcessorConstructor := fun params => do
  let min ← ProcessError.ofParam (params.getFloat "min")
  let max ← ProcessError.ofParam (params.getFloat "max")
  if min.isNaN || max.isNaN || decide (max < min) then
    let write := Decimal.Layout.plain.write
    throw (.param (.invalid "max" (write max ++ " is below min " ++ write min)))
  return .quiet "float.clamp" (clampNumber min max)

end Switchboard.Processor
