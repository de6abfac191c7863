import Switchboard.Cancellation
import Switchboard.Module.Parameters
import Switchboard.Module.Submission
import Switchboard.Transport.Connection
import Switchboard.Transport.Network

/-!
# Stream servers

A module that accepts framed connections at one address. Each connection has a framer of its own
and is attended until it ends; a table keeps the sender of the latest connection from each peer.
A payload goes to every connection of the table, one after the other, and waits where there is no
room for it; a connection that refuses it is dropped.
-/

namespace Switchboard

namespace TcpServer

/-- How far the attendance of a connection has come. When it leaves, no more events are taken and
the table is still to be told; when it is over, the receiver is gone. -/
inductive Attendance where
  | attending
  | leaving
  | over
  deriving DecidableEq, Repr

/-- A connection that has been accepted. -/
structure Served where
  peer : Address
  framer : Framer
  connection : Connection
  token : Token
  attendance : Attendance

end TcpServer

/-- A module that accepts connections. The connections are kept from the first on. The table gives
for a peer the number of the connection whose sender is kept, in the order in which it is gone
through. -/
structure TcpServer where
  id : String
  address : String
  framing : FramingMethod
  listening : Option Address
  served : List TcpServer.Served
  clients : List (Address × Nat)
  signal : StopSignal

namespace TcpServer

/-- The type in configurations. -/
def typeName : String := "net.tcp.server"

/-- Builds the module. -/
def ofConfig (config : ModuleConfig) : Except ModuleError TcpServer := do
  let address ← ModuleError.listeningAddressOf config.params
  let framing ← ModuleError.framingOf config.params
  return ⟨config.id, address, framing, none, [], [], .idle⟩

/-- Puts another state of an accepted connection in its place. -/
def update (m : TcpServer) (n : Nat) (s : Served) : TcpServer :=
  { m with served := m.served.set n s }

/-- Takes a peer from the table. -/
def forget (m : TcpServer) (peer : Address) : TcpServer :=
  { m with clients := m.clients.filter fun client => client.1 ≠ peer }

/-- Accepts a connection: it becomes the one of its peer. -/
def accept (m : TcpServer) (token : Token) (peer : Address) : TcpServer :=
  { m with
    served := m.served ++ [⟨peer, m.framing.build, .fresh, token, .attending⟩]
    clients := (m.forget peer).clients ++ [(peer, m.served.length)] }

/-! ## Output -/

/-- Takes the bytes of a payload. Without an address or without connections there is nobody to take
them to, whatever the payload is. -/
def messageOf (m : TcpServer) (p : Payload) : Except ModuleError Bytes :=
  if m.listening.isNone then
    .error (.notReady ("TCP server " ++ m.id ++ " is not listening"))
  else if m.clients.isEmpty then
    .error (.notReady ("TCP server " ++ m.id ++ " has no connected clients"))
  else p.intoBytes.mapError .payload

/-- What is returned when so many connections have taken a message. -/
def answer (m : TcpServer) (delivered : Nat) : Except ModuleError Unit :=
  if delivered = 0 then
    .error (.connectionFailed ("TCP server " ++ m.id ++ " could not reach any client"))
  else .ok ()

/-- A payload that is on its way to the connections of the table as it was. `targets` are still to
get it, and it may have a place in the line for room at the first of them; `refused` has just refused
it and its peer is still in the table. -/
structure Delivery where
  message : Bytes
  targets : List (Address × Nat)
  delivered : Nat
  refused : Option (Address × Nat)
  place : Option Nat

/-- The place that a delivery has in the line of a connection. -/
def Delivery.placeAt (d : Delivery) (n : Nat) : Option Nat :=
  if d.targets.head?.any (·.2 == n) then d.place else none

/-- Begins to deliver a payload. -/
def begin (m : TcpServer) (p : Payload) : Except ModuleError Delivery :=
  (m.messageOf p).map fun message => ⟨message, m.clients, 0, none, none⟩

/-- Offers the message to the first of the connections that are still to get it, where others may be
in line. -/
def offer (m : TcpServer) (d : Delivery) (target : Address × Nat) (rest : List (Address × Nat))
    (line : List Nat) : TcpServer × Delivery :=
  match m.served[target.2]? with
  | none => (m, { d with targets := rest, place := none })
  | some s =>
    match s.connection.offer line d.place d.message with
    | (.queued, connection) =>
      (m.update target.2 { s with connection },
        { d with targets := rest, delivered := d.delivered + 1, place := none })
    | (.waits, connection) =>
      (m.update target.2 { s with connection },
        { d with place := some (d.place.getD (Connection.behind line)) })
    | (.refused _, connection) =>
      (m.update target.2 { s with connection },
        { d with targets := rest, refused := some target, place := none })

/-- Hands a message to one connection and waits for its answer, which is whether the connection has
taken it. Otherwise its peer is taken from the table. -/
def sendTo (m : TcpServer) (message : Bytes) (target : Address × Nat) : Bool × TcpServer :=
  match m.served[target.2]? with
  | none => (false, m)
  | some s =>
    match s.connection.await s.framer message with
    | (.refused _, framer, connection) =>
      (false, (m.update target.2 { s with framer, connection }).forget target.1)
    | (_, framer, connection) => (true, m.update target.2 { s with framer, connection })

/-- Hands a message to connections one after the other. The answer is how many have taken it. -/
def sendAll (m : TcpServer) (message : Bytes) : List (Address × Nat) → Nat × TcpServer
  | [] => (0, m)
  | target :: rest =>
    let (taken, m) := m.sendTo message target
    let (more, m) := m.sendAll message rest
    (taken.toNat + more, m)

/-- Delivers a payload and waits for the connections that have no room for it. -/
def output (m : TcpServer) (p : Payload) : Except ModuleError Unit × TcpServer :=
  match m.messageOf p with
  | .error e => (.error e, m)
  | .ok message =>
    let (delivered, m) := m.sendAll message m.clients
    (m.answer delivered, m)

/-! ## Start and end -/

/-- The address has been taken. -/
def listen (m : TcpServer) (a : Address) : TcpServer := { m with listening := some a }

/-- The table is emptied. -/
def clearClients (m : TcpServer) : TcpServer := { m with clients := [] }

/-- Every attendance is broken off. -/
def abortAll (m : TcpServer) : TcpServer :=
  { m with served := m.served.map fun s => { s with attendance := .over } }

/-- The address is given up. -/
def unlisten (m : TcpServer) : TcpServer := { m with listening := none }

/-- All that a start does at its end. -/
def shut (m : TcpServer) : TcpServer := m.clearClients.abortAll.unlisten

/-! ## Service -/

/-- How far a start has come. At its end a start empties the table, breaks the attendances off and
gives the address up, one after the other. -/
inductive Phase where
  | idle
  | opening (token : Token)
  | accepting (token : Token)
  | emptied
  | aborted
  deriving DecidableEq, Repr

/-- What happens to a server. The attendant of a connection takes its next event, finds that the
start has been cancelled, or takes the peer from the table and ends. Somebody begins to deliver a
payload; the delivery goes on, or is given up with whoever has begun it. The table comes to be gone
through in another order. -/
inductive Action where
  | start (context : Token)
  | opened (result : Except SocketError Address)
  | accept (peer : Address)
  | connection (n : Nat) (step : Connection.Step)
  | attend (n : Nat)
  | dismiss (n : Nat)
  | depart (n : Nat)
  | output (p : Payload)
  | deliver (k : Nat)
  | giveUp (k : Nat)
  | reorder (order : List (Address × Nat))
  | proceed
  | stop
  | cancel (token : Token)

/-- A server in service, with the deliveries that are on their way, what it has sent on, and what
deliveries and starts have returned. -/
structure Service where
  module : TcpServer
  phase : Phase
  tokens : Cancellations
  deliveries : List Delivery
  submitted : List Submission
  answers : List (Except ModuleError Unit)
  returns : List (Except ModuleError Unit)

namespace Service

/-- A server that has not been started. -/
def initial (m : TcpServer) : Service := ⟨m, .idle, .none, [], [], [], []⟩

/-- Whether somebody holds a sender of a connection: the table or a delivery on its way. -/
def isHeld (s : Service) (n : Nat) : Bool :=
  s.module.clients.any (fun client => client.2 == n) ||
    s.deliveries.any fun d => d.targets.any fun target => target.2 == n

/-- The places of the deliveries that wait in line for room at a connection. -/
def line (s : Service) (n : Nat) : List Nat := s.deliveries.filterMap (·.placeAt n)

/-- An attendant takes the next event of its connection. -/
def attend (s : Service) (n : Nat) : Service :=
  match s.module.served[n]? with
  | some served =>
    if served.attendance = .attending then
      let (received, c) := served.connection.receive
      let served := { served with connection := c }
      match received with
      | .event (.data message) =>
        { s with
          module := s.module.update n served
          submitted := s.submitted ++ [⟨n, s.module.id, .bytes message⟩] }
      | .event _ | .closed =>
        { s with module := s.module.update n { served with attendance := .leaving } }
      | .pending => s
    else s
  | none => s

/-- An attendant leaves its connection. -/
def dismiss (s : Service) (n : Nat) : Service :=
  match s.module.served[n]? with
  | some served =>
    if served.attendance = .attending ∧ s.tokens.isCancelled served.token then
      { s with module := s.module.update n { served with attendance := .leaving } }
    else s
  | none => s

/-- An attendant takes its peer from the table and ends. -/
def depart (s : Service) (n : Nat) : Service :=
  match s.module.served[n]? with
  | some served =>
    if served.attendance = .leaving then
      { s with
        module := (s.module.forget served.peer).update n { served with attendance := .over } }
    else s
  | none => s

/-- A delivery goes on: it takes a peer from the table whose connection has refused it, offers itself
to its next connection, or returns. -/
def deliver (s : Service) (k : Nat) : Service :=
  match s.deliveries[k]? with
  | some d =>
    match d.refused, d.targets with
    | some target, _ =>
      { s with
        module := s.module.forget target.1
        deliveries := s.deliveries.set k { d with refused := none } }
    | none, target :: rest =>
      let (module, d) := s.module.offer d target rest (s.line target.2)
      { s with module, deliveries := s.deliveries.set k d }
    | none, [] =>
      { s with
        deliveries := s.deliveries.eraseIdx k
        answers := s.answers ++ [s.module.answer d.delivered] }
  | none => s

/-- One step. A step that is not possible changes nothing. -/
def step (s : Service) : Action → Service
  | .start context =>
    match s.phase with
    | .idle =>
      let (token, signal, tokens) := StopSignal.begin s.tokens context
      { s with module := { s.module with signal }, phase := .opening token, tokens }
    | _ => s
  | .opened result =>
    match s.phase, result with
    | .opening token, .ok a => { s with module := s.module.listen a, phase := .accepting token }
    | .opening _, .error e =>
      let failure := ModuleError.ofTransport (.bindFailed e.message)
      { s with phase := .idle, returns := s.returns ++ [.error failure] }
    | _, _ => s
  | .accept peer =>
    match s.phase with
    | .accepting token => { s with module := s.module.accept token peer }
    | _ => s
  | .connection n step =>
    match s.module.served[n]? with
    | some served =>
      let heard := served.attendance ≠ .over
      let (framer, connection) := served.connection.step (s.isHeld n) heard served.framer step
      { s with module := s.module.update n { served with framer, connection } }
    | none => s
  | .attend n => s.attend n
  | .dismiss n => s.dismiss n
  | .depart n => s.depart n
  | .output p =>
    match s.module.begin p with
    | .ok d => { s with deliveries := s.deliveries ++ [d] }
    | .error _ => s
  | .deliver k => s.deliver k
  | .giveUp k => { s with deliveries := s.deliveries.eraseIdx k }
  | .reorder order =>
    if order.isPerm s.module.clients then
      { s with module := { s.module with clients := order } }
    else s
  | .proceed =>
    match s.phase with
    | .accepting token =>
      if s.tokens.isCancelled token then
        { s with module := s.module.clearClients, phase := .emptied }
      else s
    | .emptied => { s with module := s.module.abortAll, phase := .aborted }
    | .aborted =>
      { s with module := s.module.unlisten, phase := .idle, returns := s.returns ++ [.ok ()] }
    | _ => s
  | .stop =>
    let (signal, tokens) := s.module.signal.stop s.tokens
    { s with module := { s.module with signal }, tokens }
  | .cancel token => { s with tokens := s.tokens.cancel token }

/-- A run of steps. -/
def run (s : Service) (actions : List Action) : Service := actions.foldl step s

end Service

end TcpServer

end Switchboard
