import Switchboard.Decimal.Integer
import Switchboard.Transport.Error

/-!
# Networks

What the sockets of a machine can do: which local addresses they can take, and whether anybody can
be reached from them.
-/

namespace Switchboard

/-- An address of a socket. -/
structure Address where
  host : String
  port : Nat
  deriving DecidableEq, Repr

/-- Why a socket operation failed. -/
inductive SocketError where
  | invalidAddress
  | invalidPort
  | addressInUse
  | addressNotAvailable
  | networkUnreachable
  | connectionRefused
  | connectionReset
  | messageTooLong
  deriving DecidableEq, Repr

/-- How the error reads. -/
def SocketError.message : SocketError → String
  | .invalidAddress => "invalid socket address"
  | .invalidPort => "invalid port value"
  | .addressInUse => "Address already in use (os error 98)"
  | .addressNotAvailable => "Cannot assign requested address (os error 99)"
  | .networkUnreachable => "Network is unreachable (os error 101)"
  | .connectionRefused => "Connection refused (os error 111)"
  | .connectionReset => "Connection reset by peer (os error 104)"
  | .messageTooLong => "Message too long (os error 90)"

namespace Address

/-- The text of an address. -/
def text (a : Address) : String := a.host ++ ":" ++ toString a.port

/-- The parts of a text before and after its last colon. -/
def splitLastColon : List Char → Option (List Char × List Char)
  | [] => none
  | c :: rest =>
    match splitLastColon rest with
    | some (before, after) => some (c :: before, after)
    | none => if c = ':' then some ([], rest) else none

/-- The address that a text names: a host, a colon and a port number of 16 bits. -/
def ofText (text : String) : Except SocketError Address :=
  match splitLastColon text.toList with
  | none => .error .invalidAddress
  | some (host, port) =>
    match Decimal.readInteger 10 port with
    | .ok n =>
      if port.head? ≠ some '-' ∧ 0 ≤ n ∧ n < 65536 then .ok ⟨String.ofList host, n.toNat⟩
      else .error .invalidPort
    | .error _ => .error .invalidPort

/-- Two sockets cannot have these two addresses: the ports are the same and not zero, and the hosts
are the same or one of them stands for all. -/
def conflicts (a b : Address) : Bool :=
  a.port ≠ 0 && a.port == b.port &&
    (a.host == b.host || a.host == "0.0.0.0" || b.host == "0.0.0.0")

end Address

/-- The network as the sockets of one machine meet it. `isLocal` are the hosts whose addresses can
be taken, and `reachable` tells whether anybody can be reached. -/
structure Network where
  isLocal : String → Bool
  reachable : Bool

namespace Network

/-- The network of a machine that is reached through its loopback interface. -/
def loopback : Network := ⟨fun host => host == "127.0.0.1" || host == "0.0.0.0", true⟩

/-- No network: any address can be taken, and nobody can be reached. -/
def isolated : Network := ⟨fun _ => true, false⟩

/-- The greatest length of a datagram. -/
def longestDatagram : Nat := 65507

/-- Takes a local address, of which others may have been taken. Port zero stands for any that is
free. -/
def bind (n : Network) (taken : List Address) (text : String) : Except SocketError Address := do
  let address ← Address.ofText text
  if !n.isLocal address.host then throw .addressNotAvailable
  if taken.any address.conflicts then throw .addressInUse
  return address

/-- Connects to an address, given those at which somebody listens. -/
def connect (n : Network) (listening : List Address) (text : String) :
    Except SocketError Address := do
  let address ← Address.ofText text
  if !n.reachable then throw .networkUnreachable
  if !listening.contains address then throw .connectionRefused
  return address

/-- Sends a datagram of some length. -/
def send (n : Network) (length : Nat) : Except SocketError Unit :=
  if !n.reachable then .error .networkUnreachable
  else if longestDatagram < length then .error .messageTooLong
  else .ok ()

end Network

end Switchboard
