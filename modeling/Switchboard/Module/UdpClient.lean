import Switchboard.Cancellation
import Switchboard.Module.Parameters
import Switchboard.Transport.Network

/-!
# Datagram clients

A destination that sends every payload as a datagram to one address.
-/

namespace Switchboard

/-- A module that sends datagrams. A local port of zero stands for any, and `socket` is the address
that is sent to while there is a socket. -/
structure UdpClient where
  id : String
  target : String
  bindPort : UInt16
  socket : Option Address
  sent : List Bytes
  signal : StopSignal
  deriving DecidableEq, Repr

namespace UdpClient

/-- The type in configurations. -/
def typeName : String := "net.udp.client"

/-- Builds the module. -/
def ofConfig (config : ModuleConfig) : Except ModuleError UdpClient := do
  let target ← ModuleError.remoteAddressOf config.params
  let bindPort ← ModuleError.ofParam (config.params.getPortD "bind_port" 0)
  return ⟨config.id, target, bindPort, none, [], .idle⟩

/-- The text of the local address to send from. -/
def localAddress (m : UdpClient) : String := "0.0.0.0:" ++ toString m.bindPort.toNat

/-- Sends a payload over a network. -/
def output (network : Network) (m : UdpClient) (p : Payload) :
    Except ModuleError Unit × UdpClient :=
  match m.socket with
  | none => (.error (.notReady ("UDP client " ++ m.id ++ " is not started")), m)
  | some _ =>
    match p.intoBytes with
    | .error e => (.error (.payload e), m)
    | .ok datagram =>
      match network.send datagram.length with
      | .error e => (.error (.ofTransport (.sendFailed e.message)), m)
      | .ok () => (.ok (), { m with sent := m.sent ++ [datagram] })

/-- A socket has been made that sends to an address. -/
def connect (m : UdpClient) (target : Address) : UdpClient := { m with socket := some target }

/-- The socket is given up. -/
def disconnect (m : UdpClient) : UdpClient := { m with socket := none }

/-! ## Service -/

/-- How far a start has come. -/
inductive Phase where
  | idle
  | opening (token : Token)
  | sending (token : Token)
  deriving DecidableEq, Repr

/-- What happens to a client. -/
inductive Action where
  | start (context : Token)
  | opened (result : Except ModuleError Address)
  | output (network : Network) (p : Payload)
  | leave
  | stop
  | cancel (token : Token)

/-- A client in service. -/
structure Service where
  module : UdpClient
  phase : Phase
  tokens : Cancellations
  returns : List (Except ModuleError Unit)

namespace Service

/-- A client that has not been started. -/
def initial (m : UdpClient) : Service := ⟨m, .idle, .none, []⟩

/-- One step. A step that is not possible changes nothing. -/
def step (s : Service) : Action → Service
  | .start context =>
    match s.phase with
    | .idle =>
      let (token, signal, tokens) := StopSignal.begin s.tokens context
      { s with module := { s.module with signal }, phase := .opening token, tokens }
    | _ => s
  | .opened result =>
    match s.phase, result with
    | .opening token, .ok a => { s with module := s.module.connect a, phase := .sending token }
    | .opening _, .error e => { s with phase := .idle, returns := s.returns ++ [.error e] }
    | _, _ => s
  | .output network p => { s with module := (UdpClient.output network s.module p).2 }
  | .leave =>
    match s.phase with
    | .sending token =>
      if s.tokens.isCancelled token then
        { s with module := s.module.disconnect, phase := .idle, returns := s.returns ++ [.ok ()] }
      else s
    | _ => s
  | .stop =>
    let (signal, tokens) := s.module.signal.stop s.tokens
    { s with module := { s.module with signal }, tokens }
  | .cancel token => { s with tokens := s.tokens.cancel token }

/-- A run of steps. -/
def run (s : Service) (actions : List Action) : Service := actions.foldl step s

end Service

end UdpClient

end Switchboard
