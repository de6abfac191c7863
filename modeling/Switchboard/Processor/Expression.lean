import Switchboard.Expression.Evaluation
import Switchboard.Processor.Basic

/-!
# Expressions of payloads

An expression sees the payload under two names, and two constants.
-/

namespace Switchboard.Processor

open Expression (Tree Value Halt)

/-- A text that has been read as an expression. -/
structure Formula where
  source : String
  tree : Tree

namespace Formula

/-- The formula of a text. -/
def ofText (source : String) : Except Expression.SyntaxError Formula := do
  return ⟨source, ← Tree.ofText source⟩

/-- The formula of a text; a text that is none fails as an evaluation does. -/
def build (source : String) : Except ProcessError Formula :=
  (ofText source).mapError fun e => .evaluation e.message

/-- The value by which an expression sees a payload. -/
def bind : Payload → Except PayloadError Value
  | .int i => .ok (.int i)
  | .float f => .ok (.float f)
  | .text s => .ok (.string s)
  | .bool b => .ok (.boolean b)
  | p => .error (p.mismatch "number, text or bool")

/-- The variables of an expression for the value of a payload. -/
def lookup (value : Value) (name : String) : Option Value :=
  if name = "value" ∨ name = "x" then some value
  else if name = "PI" then some (.float (Float.ofBits 0x400921FB54442D18))
  else if name = "E" then some (.float (Float.ofBits 0x4005BF0A8B145769))
  else none

/-- The payload of a result. Tuples and the empty value have none. -/
def result (source : String) : Value → Processed
  | .int i => .passed (.int i)
  | .float f => .passed (.float f)
  | .string s => .passed (.text s)
  | .boolean b => .passed (.bool b)
  | v => .failed (.evaluation (source ++ " produced unsupported value " ++ v.exhibit))

/-- The value of the formula for a payload. -/
def process (formula : Formula) (p : Payload) : Processed :=
  .ofView (bind p) fun value =>
    match formula.tree.eval (lookup value) with
    | .ok v => result formula.source v
    | .error (.error e) => .failed (.evaluation e.message)
    | .error .crash => .crashed

/-- The step that evaluates the formula. -/
def toProcessor (formula : Formula) : Processor := .quiet "expr.evaluate" formula.process

end Formula

/-- Builds a step that evaluates an expression. -/
def exprEvaluate : ProcessorConstructor := fun params => do
  let source ← ProcessError.ofParam (params.getString "expression")
  match Formula.ofText source with
  | .ok formula => return formula.toProcessor
  | .error e => throw (.param (.invalid "expression" e.message))

end Switchboard.Processor
