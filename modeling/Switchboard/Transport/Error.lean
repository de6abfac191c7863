/-!
# Transport errors

What can go wrong between a module and a socket, and how each failure reads.
-/

namespace Switchboard

/-- Why a transport operation failed. -/
inductive TransportError where
  | connectionFailed (reason : String)
  | bindFailed (reason : String)
  | acceptFailed (reason : String)
  | sendFailed (reason : String)
  | notConnected
  | invalidFraming (reason : String)
  | messageTooLarge (size max : Nat)
  | io (reason : String)
  deriving DecidableEq, Repr

/-- How a transport error reads. -/
def TransportError.message : TransportError → String
  | .connectionFailed reason => "connection failed: " ++ reason
  | .bindFailed reason => "bind failed: " ++ reason
  | .acceptFailed reason => "accept failed: " ++ reason
  | .sendFailed reason => "send failed: " ++ reason
  | .notConnected => "not connected"
  | .invalidFraming reason => "invalid framing: " ++ reason
  | .messageTooLarge size max => s!"message too large: {size} > {max}"
  | .io reason => "io error: " ++ reason

end Switchboard
