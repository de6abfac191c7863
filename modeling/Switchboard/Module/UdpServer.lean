import Switchboard.Cancellation
import Switchboard.Module.Parameters
import Switchboard.Transport.Network

/-!
# Datagram servers

A source that sends on the datagrams that reach its address.
-/

namespace Switchboard

/-- A module that receives datagrams. -/
structure UdpServer where
  id : String
  address : String
  bound : Option Address
  signal : StopSignal
  deriving DecidableEq, Repr

namespace UdpServer

/-- The type in configurations. -/
def typeName : String := "net.udp.server"

/-- Builds the module. -/
def ofConfig (config : ModuleConfig) : Except ModuleError UdpServer := do
  let address ← ModuleError.listeningAddressOf config.params
  return ⟨config.id, address, none, .idle⟩

/-- A receiver takes no payloads. -/
def output (_ : UdpServer) (_ : Payload) : Except ModuleError Unit :=
  .error (.unsupported (typeName ++ " is receive only"))

/-- The address has been taken. -/
def bind (m : UdpServer) (a : Address) : UdpServer := { m with bound := some a }

/-- The address is given up. -/
def unbind (m : UdpServer) : UdpServer := { m with bound := none }

/-! ## Service -/

/-- How far a start has come. -/
inductive Phase where
  | idle
  | opening (token : Token)
  | receiving (token : Token)
  deriving DecidableEq, Repr

/-- What happens to a server. -/
inductive Action where
  | start (context : Token)
  | opened (result : Except SocketError Address)
  | receive (datagram : Bytes)
  | closed
  | leave
  | stop
  | cancel (token : Token)

/-- A server in service. -/
structure Service where
  module : UdpServer
  phase : Phase
  tokens : Cancellations
  submitted : List Bytes
  returns : List (Except ModuleError Unit)

namespace Service

/-- A server that has not been started. -/
def initial (m : UdpServer) : Service := ⟨m, .idle, .none, [], []⟩

/-- One step. A step that is not possible changes nothing. -/
def step (s : Service) : Action → Service
  | .start context =>
    match s.phase with
    | .idle =>
      let (token, signal, tokens) := StopSignal.begin s.tokens context
      { s with module := { s.module with signal }, phase := .opening token, tokens }
    | _ => s
  | .opened result =>
    match s.phase, result with
    | .opening token, .ok a => { s with module := s.module.bind a, phase := .receiving token }
    | .opening _, .error e =>
      let failure := ModuleError.ofTransport (.bindFailed e.message)
      { s with phase := .idle, returns := s.returns ++ [.error failure] }
    | _, _ => s
  | .receive datagram =>
    match s.phase with
    | .receiving _ => { s with submitted := s.submitted ++ [datagram] }
    | _ => s
  | .closed =>
    match s.phase with
    | .receiving token =>
      let result :=
        if s.tokens.isCancelled token then .ok ()
        else .error (.connectionFailed ("UDP server " ++ s.module.id ++ " receiver closed"))
      { s with module := s.module.unbind, phase := .idle, returns := s.returns ++ [result] }
    | _ => s
  | .leave =>
    match s.phase with
    | .receiving token =>
      if s.tokens.isCancelled token then
        { s with module := s.module.unbind, phase := .idle, returns := s.returns ++ [.ok ()] }
      else s
    | _ => s
  | .stop =>
    let (signal, tokens) := s.module.signal.stop s.tokens
    { s with module := { s.module with signal }, tokens }
  | .cancel token => { s with tokens := s.tokens.cancel token }

/-- A run of steps. -/
def run (s : Service) (actions : List Action) : Service := actions.foldl step s

end Service

end UdpServer

end Switchboard
