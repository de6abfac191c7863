import Switchboard.Params
import Switchboard.Payload
import Switchboard.Transport.Error

/-!
# Module errors

Why a module cannot be built, cannot run or cannot take a payload.
-/

namespace Switchboard

/-- A failure of a module. -/
inductive ModuleError where
  | param (e : ParamError)
  | payload (e : PayloadError)
  | invalidConfig (reason : String)
  | notReady (reason : String)
  | connectionFailed (reason : String)
  | unsupported (reason : String)
  | io (reason : String)
  | other (reason : String)
  deriving DecidableEq, Repr

namespace ModuleError

/-- How the error reads. -/
def message : ModuleError → String
  | .param e => "param error: " ++ e.message
  | .payload e => "payload error: " ++ e.message
  | .invalidConfig reason => "invalid config: " ++ reason
  | .notReady reason => "not ready: " ++ reason
  | .connectionFailed reason => "connection failed: " ++ reason
  | .unsupported reason => "unsupported: " ++ reason
  | .io reason => "io error: " ++ reason
  | .other reason => "module error: " ++ reason

/-- What a failure of the transport means for the module that uses it. -/
def ofTransport : TransportError → ModuleError
  | .connectionFailed reason => .connectionFailed reason
  | .bindFailed reason => .connectionFailed reason
  | .acceptFailed reason => .connectionFailed reason
  | .notConnected => .notReady "not connected"
  | .invalidFraming reason => .invalidConfig reason
  | .messageTooLarge size max => .other (TransportError.messageTooLarge size max).message
  | .io reason => .io reason
  | .sendFailed reason => .other ("send failed: " ++ reason)

/-- A parameter on which the building of a module depends. -/
def ofParam {α : Type} (value : Except ParamError α) : Except ModuleError α :=
  value.mapError .param

end ModuleError

end Switchboard
