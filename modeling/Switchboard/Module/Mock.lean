import Switchboard.Config.Basic
import Switchboard.Route.Outcome

/-!
# Mock modules

A stand-in for trying routers. It remembers what it is given and counts what is done to it; it can
send texts when it starts, and it can be told to fail.
-/

namespace Switchboard

/-- A module that remembers. -/
structure Mock where
  id : String
  emit : List String
  failOutput : Bool
  failStart : Bool
  outputs : List Payload
  outcomes : List Outcome
  starts : Nat
  stops : Nat
  exits : Nat

namespace Mock

/-- The type in configurations. -/
def typeName : String := "test.mock"

/-- The texts of a list of values. -/
def textsOf (values : List Json) : Except ModuleError (List String) :=
  values.mapM fun value =>
    match value.asString? with
    | some text => .ok text
    | none => .error (.invalidConfig "emit entries must be strings")

/-- Builds the module. -/
def ofConfig (config : ModuleConfig) : Except ModuleError Mock := do
  let emit ← match config.params.getArray "emit" with
    | .ok values => textsOf values
    | .error (.notFound _) => pure []
    | .error e => throw (.param e)
  let failOutput ← ModuleError.ofParam (config.params.getBoolD "fail_output" false)
  let failStart ← ModuleError.ofParam (config.params.getBoolD "fail_start" false)
  return ⟨config.id, emit, failOutput, failStart, [], [], 0, 0, 0⟩

/-- Takes a payload and remembers it, or refuses it. -/
def output (m : Mock) (p : Payload) : Except ModuleError Unit × Mock :=
  if m.failOutput then (.error (.other "mock output failure"), m)
  else (.ok (), { m with outputs := m.outputs ++ [p] })

/-- Why a start fails. -/
def startFailure : ModuleError := .connectionFailed "mock start failure"

end Mock

end Switchboard
