import Switchboard.Module.Interval
import Switchboard.Module.Mock
import Switchboard.Module.TcpClient
import Switchboard.Module.TcpServer
import Switchboard.Module.UdpClient
import Switchboard.Module.UdpServer
import Switchboard.Registry.Basic

/-!
# Modules

A module is where payloads enter a router or leave it. A start of a module begins with what it does
at once, goes on until its token is cancelled, and then ends with what it gives up.
-/

namespace Switchboard

/-- A module with all that it keeps. -/
inductive Module where
  | tcpClient (m : TcpClient)
  | tcpServer (m : TcpServer)
  | udpServer (m : UdpServer)
  | udpClient (m : UdpClient)
  | interval (m : Interval)
  | mock (m : Mock)

/-- How a module is built from its entry in a configuration. -/
abbrev ModuleConstructor := ModuleConfig → Except ModuleError Module

namespace Module

/-- The id of the module. -/
def id : Module → String
  | .tcpClient m => m.id
  | .tcpServer m => m.id
  | .udpServer m => m.id
  | .udpClient m => m.id
  | .interval m => m.id
  | .mock m => m.id

/-- The type that the module is built from. -/
def type : Module → String
  | .tcpClient _ => TcpClient.typeName
  | .tcpServer _ => TcpServer.typeName
  | .udpServer _ => UdpServer.typeName
  | .udpClient _ => UdpClient.typeName
  | .interval _ => Interval.typeName
  | .mock _ => Mock.typeName

/-- An answer and what has become of the module that gave it. -/
def answered {M : Type} (wrap : M → Module) (result : Except ModuleError Unit × M) :
    Except ModuleError Unit × Module :=
  (result.1, wrap result.2)

/-- Gives the module a payload to take out over a network. -/
def output (network : Network) (m : Module) (p : Payload) : Except ModuleError Unit × Module :=
  match m with
  | .tcpClient m => answered .tcpClient (m.output p)
  | .tcpServer m => answered .tcpServer (m.output p)
  | .udpServer m => (m.output p, .udpServer m)
  | .udpClient m => answered .udpClient (UdpClient.output network m p)
  | .interval m => (m.output p, .interval m)
  | .mock m => answered .mock (m.output p)

/-- Tells the module to stop. -/
def stop (m : Module) (tokens : Cancellations) : Module × Cancellations :=
  match m with
  | .tcpClient m =>
    let (signal, tokens) := m.signal.stop tokens
    (.tcpClient { m with signal }, tokens)
  | .tcpServer m =>
    let (signal, tokens) := m.signal.stop tokens
    (.tcpServer { m with signal }, tokens)
  | .udpServer m =>
    let (signal, tokens) := m.signal.stop tokens
    (.udpServer { m with signal }, tokens)
  | .udpClient m =>
    let (signal, tokens) := m.signal.stop tokens
    (.udpClient { m with signal }, tokens)
  | .interval m =>
    let (signal, tokens) := m.signal.stop tokens
    (.interval { m with signal }, tokens)
  | .mock m => (.mock { m with stops := m.stops + 1 }, tokens)

/-! ## Starting and ending -/

/-- What a start has come to when it has done what it does at once. -/
inductive Begun where
  | running (token : Token)
  | failed (e : ModuleError)
  deriving DecidableEq, Repr

/-- The local addresses that are taken, of streams and of datagrams. -/
structure Taken where
  streams : List Address
  datagrams : List Address

/-- Why a start whose address cannot be had fails. -/
def bindFailure (e : SocketError) : Begun := .failed (.ofTransport (.bindFailed e.message))

/-- Begins a start below a context. -/
def start (network : Network) (taken : Taken) (m : Module) (context : Token)
    (tokens : Cancellations) : Begun × Module × Cancellations :=
  match m with
  | .tcpClient m =>
    let (token, signal, tokens) := StopSignal.begin tokens context
    (.running token, .tcpClient { m with signal }, tokens)
  | .tcpServer m =>
    let (token, signal, tokens) := StopSignal.begin tokens context
    let m := { m with signal }
    match network.bind taken.streams m.address with
    | .ok a => (.running token, .tcpServer (m.listen a), tokens)
    | .error e => (bindFailure e, .tcpServer m, tokens)
  | .udpServer m =>
    let (token, signal, tokens) := StopSignal.begin tokens context
    let m := { m with signal }
    match network.bind taken.datagrams m.address with
    | .ok a => (.running token, .udpServer (m.bind a), tokens)
    | .error e => (bindFailure e, .udpServer m, tokens)
  | .udpClient m =>
    let (token, signal, tokens) := StopSignal.begin tokens context
    let m := { m with signal }
    match Address.ofText m.target with
    | .error e => (.failed (.io e.message), .udpClient m, tokens)
    | .ok target =>
      match network.bind taken.datagrams m.localAddress with
      | .ok _ => (.running token, .udpClient (m.connect target), tokens)
      | .error e => (bindFailure e, .udpClient m, tokens)
  | .interval m =>
    let (token, signal, tokens) := StopSignal.begin tokens context
    (.running token, .interval { m with signal }, tokens)
  | .mock m =>
    let m := { m with starts := m.starts + 1 }
    if m.failStart then
      (.failed Mock.startFailure, .mock { m with exits := m.exits + 1 }, tokens)
    else (.running context, .mock m, tokens)

/-- Ends a start that has been cancelled. -/
def finish : Module → Module
  | .tcpClient m => .tcpClient m.disconnect
  | .tcpServer m => .tcpServer m.shut
  | .udpServer m => .udpServer m.unbind
  | .udpClient m => .udpClient m.disconnect
  | .interval m => .interval m
  | .mock m => .mock { m with exits := m.exits + 1 }

/-- The addresses that modules have taken. -/
def takenBy (modules : List Module) : Taken where
  streams := modules.filterMap fun
    | .tcpServer m => m.listening
    | _ => none
  datagrams := modules.filterMap fun
    | .udpServer m => m.bound
    | _ => none

/-! ## Types -/

/-- The registration of a type of modules. -/
def registration {M : Type} (type : String) (build : ModuleConfig → Except ModuleError M)
    (wrap : M → Module) : Registration ModuleConstructor :=
  .of type fun config => (build config).map wrap

/-- The types for use, in the order in which they are registered. -/
def builtins : List (Registration ModuleConstructor) :=
  [registration TcpClient.typeName TcpClient.ofConfig .tcpClient,
    registration TcpServer.typeName TcpServer.ofConfig .tcpServer,
    registration UdpServer.typeName UdpServer.ofConfig .udpServer,
    registration UdpClient.typeName UdpClient.ofConfig .udpClient,
    registration Interval.typeName Interval.ofConfig .interval]

/-- The types for trying routers. -/
def trials : List (Registration ModuleConstructor) :=
  [registration Mock.typeName Mock.ofConfig .mock]

end Module

end Switchboard
