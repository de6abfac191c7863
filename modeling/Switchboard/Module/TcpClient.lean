import Switchboard.Cancellation
import Switchboard.Duration
import Switchboard.Module.Parameters
import Switchboard.Module.Submission
import Switchboard.Transport.Connection
import Switchboard.Transport.Network

/-!
# Stream clients

A module that keeps a framed connection to one address. When the connection is lost it waits and
connects again. All its connections share one framer, which is cleared in two places: by a
connection that ends, and by the module when it has noticed.
-/

namespace Switchboard

/-- A module that connects to a server. The connections are kept from the first on, and `sender` is
the number of the one whose sender the module holds. -/
structure TcpClient where
  id : String
  address : String
  framing : FramingMethod
  reconnect : Duration
  framer : Framer
  connections : List Connection
  sender : Option Nat
  signal : StopSignal

namespace TcpClient

/-- The type in configurations. -/
def typeName : String := "net.tcp.client"

/-- Builds the module. -/
def ofConfig (config : ModuleConfig) : Except ModuleError TcpClient := do
  let address ← ModuleError.remoteAddressOf config.params
  let framing ← ModuleError.framingOf config.params
  let reconnect ← ModuleError.ofParam (config.params.getUintD "reconnect_ms" 2000)
  return ⟨config.id, address, framing, ⟨reconnect.toNat⟩, framing.build, [], none, .idle⟩

/-- The connection whose sender the module holds. -/
def current? (m : TcpClient) : Option (Nat × Connection) := do
  let n ← m.sender
  return (n, ← m.connections[n]?)

/-- Whether the module holds the sender of a connection that it takes for connected. -/
def isConnected (m : TcpClient) : Bool :=
  match m.current? with
  | some (_, c) => c.connected
  | none => false

/-- Puts another state of a connection in its place. -/
def update (m : TcpClient) (n : Nat) (c : Connection) : TcpClient :=
  { m with connections := m.connections.set n c }

/-- A connection has been made, and the module holds its sender. -/
def connect (m : TcpClient) : TcpClient :=
  { m with connections := m.connections ++ [.fresh], sender := some m.connections.length }

/-- The module lets go of the sender. -/
def dropSender (m : TcpClient) : TcpClient := { m with sender := none }

/-- The module clears the framer. -/
def clearFramer (m : TcpClient) : TcpClient := { m with framer := m.framer.clear }

/-- The module has done with a connection. -/
def disconnect (m : TcpClient) : TcpClient := m.dropSender.clearFramer

/-! ## Output -/

/-- A payload that is on its way to a connection, where it may have a place in the line for room. -/
structure Delivery where
  message : Bytes
  connection : Nat
  place : Option Nat

/-- The place that a delivery has in the line of a connection. -/
def Delivery.placeAt (d : Delivery) (n : Nat) : Option Nat :=
  if d.connection == n then d.place else none

/-- Begins to deliver a payload. Without a connection there is nothing to begin, whatever the payload
is. -/
def begin (m : TcpClient) (p : Payload) : Except ModuleError Delivery :=
  match m.current? with
  | none => .error (.notReady ("not connected to " ++ m.address))
  | some (n, _) => (p.intoBytes.mapError .payload).map fun message => ⟨message, n, none⟩

/-- Hands a message to the connection of a number and waits for its answer. -/
def sendTo (m : TcpClient) (message : Bytes) (n : Nat) : Except ModuleError Unit × TcpClient :=
  match m.connections[n]? with
  | none => (.error (.notReady ("not connected to " ++ m.address)), m)
  | some c =>
    match c.await m.framer message with
    | (.refused e, framer, c) => (.error (.ofTransport e), { m.update n c with framer })
    | (_, framer, c) => (.ok (), { m.update n c with framer })

/-- Delivers a payload and waits for room if there is none. -/
def output (m : TcpClient) (p : Payload) : Except ModuleError Unit × TcpClient :=
  match m.begin p with
  | .error e => (.error e, m)
  | .ok d => m.sendTo d.message d.connection

/-! ## Service -/

/-- How far a start has come. It connects, takes the events of a connection, lets go of its sender,
clears the framer and waits before it connects again. When it has been cancelled it lets go of the
sender, clears the framer and returns. -/
inductive Phase where
  | idle
  | connecting (token : Token)
  | attending (token : Token) (n : Nat)
  | dropping (token : Token) (n : Nat)
  | clearing (token : Token) (n : Nat)
  | waiting (token : Token)
  | leaving (token : Token)
  | returning (token : Token)
  deriving DecidableEq, Repr

/-- What happens to a client. It is connected or refused, takes an event of its connection, finds
that it has been cancelled, or goes on: it lets go of a sender, clears the framer, or has waited long
enough. Somebody begins to deliver a payload; the delivery goes on, or is given up with whoever has
begun it. -/
inductive Action where
  | start (context : Token)
  | connected
  | refused
  | connection (n : Nat) (step : Connection.Step)
  | attend
  | notice
  | proceed
  | output (p : Payload)
  | deliver (k : Nat)
  | giveUp (k : Nat)
  | stop
  | cancel (token : Token)

/-- A client in service, with the deliveries that are on their way, what it has sent on, what
deliveries have returned and how many starts have; a start never fails. -/
structure Service where
  module : TcpClient
  phase : Phase
  tokens : Cancellations
  deliveries : List Delivery
  submitted : List Submission
  answers : List (Except ModuleError Unit)
  returns : Nat

namespace Service

/-- A client that has not been started. -/
def initial (m : TcpClient) : Service := ⟨m, .idle, .none, [], [], [], 0⟩

/-- Whether somebody holds a sender of a connection: the module or a delivery on its way. -/
def isHeld (s : Service) (n : Nat) : Bool :=
  s.module.sender == some n || s.deliveries.any fun d => d.connection == n

/-- The places of the deliveries that wait in line for room at a connection. -/
def line (s : Service) (n : Nat) : List Nat := s.deliveries.filterMap (·.placeAt n)

/-- Whether the receiver of a connection is kept: it is until the module has done with it. -/
def isHeard (phase : Phase) (n : Nat) : Bool :=
  match phase with
  | .attending _ k | .dropping _ k | .clearing _ k => k == n
  | _ => false

/-- A delivery goes on: it is queued and returns, waits for room, or is refused and returns. -/
def deliver (s : Service) (k : Nat) : Service :=
  match s.deliveries[k]? with
  | some d =>
    match s.module.connections[d.connection]? with
    | some c =>
      let line := s.line d.connection
      match c.offer line d.place d.message with
      | (.queued, c) =>
        { s with
          module := s.module.update d.connection c
          deliveries := s.deliveries.eraseIdx k
          answers := s.answers ++ [.ok ()] }
      | (.waits, c) =>
        { s with
          module := s.module.update d.connection c
          deliveries := s.deliveries.set k
            { d with place := some (d.place.getD (Connection.behind line)) } }
      | (.refused e, c) =>
        { s with
          module := s.module.update d.connection c
          deliveries := s.deliveries.eraseIdx k
          answers := s.answers ++ [.error (.ofTransport e)] }
    | none => s
  | none => s

/-- One step. A step that is not possible changes nothing. -/
def step (s : Service) : Action → Service
  | .start context =>
    match s.phase with
    | .idle =>
      let (token, signal, tokens) := StopSignal.begin s.tokens context
      { s with module := { s.module with signal }, phase := .connecting token, tokens }
    | _ => s
  | .connected =>
    match s.phase with
    | .connecting token =>
      { s with module := s.module.connect
               phase := .attending token s.module.connections.length }
    | _ => s
  | .refused =>
    match s.phase with
    | .connecting token => { s with phase := .waiting token }
    | _ => s
  | .connection n step =>
    match s.module.connections[n]? with
    | some c =>
      let (framer, c) := c.step (s.isHeld n) (isHeard s.phase n) s.module.framer step
      { s with module := { s.module.update n c with framer } }
    | none => s
  | .attend =>
    match s.phase with
    | .attending token n =>
      match s.module.connections[n]? with
      | some c =>
        let (received, c) := c.receive
        let module := s.module.update n c
        match received with
        | .event (.data message) =>
          { s with module, submitted := s.submitted ++ [⟨n, s.module.id, .bytes message⟩] }
        | .event _ | .closed => { s with module, phase := .dropping token n }
        | .pending => s
      | none => s
    | _ => s
  | .notice =>
    match s.phase with
    | .connecting token | .waiting token =>
      if s.tokens.isCancelled token then { s with phase := .leaving token } else s
    | .attending token n =>
      if s.tokens.isCancelled token then { s with phase := .dropping token n } else s
    | _ => s
  | .proceed =>
    match s.phase with
    | .dropping token n => { s with module := s.module.dropSender, phase := .clearing token n }
    | .clearing token _ => { s with module := s.module.clearFramer, phase := .waiting token }
    | .waiting token => { s with phase := .connecting token }
    | .leaving token => { s with module := s.module.dropSender, phase := .returning token }
    | .returning _ =>
      { s with module := s.module.clearFramer, phase := .idle, returns := s.returns + 1 }
    | _ => s
  | .output p =>
    match s.module.begin p with
    | .ok d => { s with deliveries := s.deliveries ++ [d] }
    | .error _ => s
  | .deliver k => s.deliver k
  | .giveUp k => { s with deliveries := s.deliveries.eraseIdx k }
  | .stop =>
    let (signal, tokens) := s.module.signal.stop s.tokens
    { s with module := { s.module with signal }, tokens }
  | .cancel token => { s with tokens := s.tokens.cancel token }

/-- A run of steps. -/
def run (s : Service) (actions : List Action) : Service := actions.foldl step s

end Service

end TcpClient

end Switchboard
