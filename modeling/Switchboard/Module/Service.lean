import Switchboard.Module.Basic

/-!
# Modules in service

A module that is built for use, with the start that it is in and all that has become of it. Each type
takes steps of its own; starts, stops and cancellations, payloads that it is given and what happens
to its sockets come in any order, and one start begins only after the last has returned.
-/

namespace Switchboard.Module

/-- A module in service. -/
inductive Service where
  | tcpClient (s : TcpClient.Service)
  | tcpServer (s : TcpServer.Service)
  | udpServer (s : UdpServer.Service)
  | udpClient (s : UdpClient.Service)
  | interval (s : Interval.Service)

namespace Service

/-- What happens to a module. -/
inductive Action where
  | tcpClient (a : TcpClient.Action)
  | tcpServer (a : TcpServer.Action)
  | udpServer (a : UdpServer.Action)
  | udpClient (a : UdpClient.Action)
  | interval (a : Interval.Action)

/-- A module that has not been started. There is none for a mock, which is not for use. -/
def initial? : Module → Option Service
  | .tcpClient m => some (.tcpClient (.initial m))
  | .tcpServer m => some (.tcpServer (.initial m))
  | .udpServer m => some (.udpServer (.initial m))
  | .udpClient m => some (.udpClient (.initial m))
  | .interval m => some (.interval (.initial m))
  | .mock _ => none

/-- The module. -/
def module : Service → Module
  | .tcpClient s => .tcpClient s.module
  | .tcpServer s => .tcpServer s.module
  | .udpServer s => .udpServer s.module
  | .udpClient s => .udpClient s.module
  | .interval s => .interval s.module

/-- Whether no start is in progress. -/
def isIdle : Service → Bool
  | .tcpClient s => s.phase = .idle
  | .tcpServer s => s.phase = .idle
  | .udpServer s => s.phase = .idle
  | .udpClient s => s.phase = .idle
  | .interval s => s.phase = .idle

/-- How many starts have returned. -/
def returned : Service → Nat
  | .tcpClient s => s.returns
  | .tcpServer s => s.returns.length
  | .udpServer s => s.returns.length
  | .udpClient s => s.returns.length
  | .interval s => s.returns.length

/-- One step. What happens to a module of another type changes nothing. -/
def step : Service → Action → Service
  | .tcpClient s, .tcpClient a => .tcpClient (s.step a)
  | .tcpServer s, .tcpServer a => .tcpServer (s.step a)
  | .udpServer s, .udpServer a => .udpServer (s.step a)
  | .udpClient s, .udpClient a => .udpClient (s.step a)
  | .interval s, .interval a => .interval (s.step a)
  | s, _ => s

/-- A run of steps. -/
def run (s : Service) (actions : List Action) : Service := actions.foldl step s

/-- Somebody begins to give the module a payload to take out over a network. -/
def give (network : Network) (p : Payload) : Service → Service
  | .tcpClient s => .tcpClient (s.step (.output p))
  | .tcpServer s => .tcpServer (s.step (.output p))
  | .udpServer s => .udpServer s
  | .udpClient s => .udpClient (s.step (.output network p))
  | .interval s => .interval s

end Service

end Switchboard.Module
