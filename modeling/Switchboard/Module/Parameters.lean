import Switchboard.Config.Basic
import Switchboard.Framing.Method
import Switchboard.Module.Error

/-!
# Parameters that modules share
-/

namespace Switchboard.ModuleError

/-- The framing that a configuration asks for; lines are the default. -/
def framingOf (params : Params) : Except ModuleError FramingMethod := do
  let name ← ofParam (params.getStringD "framing" "LF")
  match FramingMethod.ofName name with
  | .ok method => return method
  | .error e => throw (.invalidConfig e.message)

/-- The text of the address at which a server of the configuration listens; the default is every
local one. -/
def listeningAddressOf (params : Params) : Except ModuleError String := do
  let ip ← ofParam (params.getStringD "ip" "0.0.0.0")
  let port ← ofParam (params.getPort "port")
  return ip ++ ":" ++ toString port.toNat

/-- The text of the address that a client of the configuration turns to. -/
def remoteAddressOf (params : Params) : Except ModuleError String := do
  let host ← ofParam (params.getString "host")
  let port ← ofParam (params.getPort "port")
  return host ++ ":" ++ toString port.toNat

end Switchboard.ModuleError
