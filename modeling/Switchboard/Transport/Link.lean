import Switchboard.Transport.Connection

/-!
# Links

A connection by itself, with its framer, its senders and a receiver that is kept. The connection
takes its steps in any order between those of the senders and the receiver.
-/

namespace Switchboard

/-- A connection with all that belongs to it. While it is `held` there is a sender; `sent` are the
messages that the senders have queued and `received` the events that the receiver has taken, in
order, and `waiting` are the messages that senders in line wait with for room. -/
structure Link where
  framer : Framer
  connection : Connection
  held : Bool
  sent : List Bytes
  waiting : List Bytes
  received : List TransportEvent

namespace Link

/-- What happens to a link. A sender is given a message, the sender of a number goes on that waits, a
sender takes the connection for ended from now on, or the last of the senders goes. -/
inductive Action where
  | connection (step : Connection.Step)
  | send (message : Bytes)
  | resume (k : Nat)
  | close
  | dropSenders
  | receive
  deriving DecidableEq, Repr

/-- A link that has just been made, with a framer as it comes. -/
def make (framer : Framer) : Link := ⟨framer, .fresh, true, [], [], []⟩

/-- One step. A step that is not possible changes nothing. -/
def step (l : Link) : Action → Link
  | .connection step =>
    let (framer, connection) := l.connection.step l.held true l.framer step
    { l with framer, connection }
  | .send message =>
    if l.held then
      match l.connection.send l.waiting.length message with
      | (.queued, connection) => { l with connection, sent := l.sent ++ [message] }
      | (.waits, connection) => { l with connection, waiting := l.waiting ++ [message] }
      | (.refused _, connection) => { l with connection }
    else l
  | .resume k =>
    match l.waiting[k]? with
    | some message =>
      let waiting := l.waiting.eraseIdx k
      match l.connection.enqueue k message with
      | (.queued, connection) => { l with connection, sent := l.sent ++ [message], waiting }
      | (.waits, connection) => { l with connection }
      | (.refused _, connection) => { l with connection, waiting }
    | none => l
  | .close => if l.held then { l with connection := l.connection.close } else l
  | .dropSenders => { l with held := false, waiting := [] }
  | .receive =>
    match l.connection.receive with
    | (.event e, connection) => { l with connection, received := l.received ++ [e] }
    | (_, connection) => { l with connection }

/-- A run of steps. -/
def run (l : Link) (actions : List Action) : Link := actions.foldl step l

/-- Whether the senders take the connection for connected. -/
def isConnected (l : Link) : Bool := l.connection.connected

/-- Whether the connection has done all that it does. -/
def hasEnded (l : Link) : Bool := l.connection.stage = .ended

end Link

end Switchboard
