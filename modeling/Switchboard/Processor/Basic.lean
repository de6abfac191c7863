import Switchboard.Log
import Switchboard.Params
import Switchboard.Payload

/-!
# Processors

A processor is one step of a route. It turns a payload into another one, drops it or fails; a fault
inside a function that it relies on ends the task that runs it.
-/

namespace Switchboard

/-- Why a processor cannot be built or cannot process a payload. -/
inductive ProcessError where
  | param (e : ParamError)
  | payload (e : PayloadError)
  | evaluation (reason : String)
  | invalidInput (reason : String)
  | other (reason : String)
  deriving DecidableEq, Repr

/-- How the error reads. -/
def ProcessError.message : ProcessError → String
  | .param e => "param error: " ++ e.message
  | .payload e => "payload error: " ++ e.message
  | .evaluation reason => "evaluation failed: " ++ reason
  | .invalidInput reason => "invalid input: " ++ reason
  | .other reason => "processor error: " ++ reason

/-- What becomes of a payload. -/
inductive Processed where
  | passed (p : Payload)
  | dropped
  | failed (e : ProcessError)
  | crashed

namespace Processed

/-- A payload made of a view of another, or the failure to view it. -/
def ofView {α : Type} (view : Except PayloadError α) (f : α → Processed) : Processed :=
  match view with
  | .ok value => f value
  | .error e => .failed (.payload e)

end Processed

/-- One step of a route. -/
structure Processor where
  type : String
  process : Payload → Processed × List LogEntry

/-- A processor that reports nothing. -/
def Processor.quiet (type : String) (f : Payload → Processed) : Processor :=
  ⟨type, fun p => (f p, [])⟩

/-- How a processor is built from parameters. -/
abbrev ProcessorConstructor := Params → Except ProcessError Processor

/-- A parameter on which the building of a processor depends. -/
def ProcessError.ofParam {α : Type} (value : Except ParamError α) : Except ProcessError α :=
  value.mapError .param

end Switchboard
