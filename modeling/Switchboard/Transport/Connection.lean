import Switchboard.Framing.Method

/-!
# Framed connections

A connection reads chunks of bytes, which a framer cuts into messages for its receiver, and writes
the messages that its senders have queued. It ends when the stream ends or breaks, when a message is
refused, when all its senders are gone or when nobody hears it. Ending takes two more steps: the
framer is cleared, which another connection may share, and then the senders are told.

The queue has room for a thousand messages. A sender that finds it full waits, behind those that wait
already, until there is room for it or the connection has ended.

Every step is atomic and says what happens next, so that a run is a list of steps and any order in
which a connection meets its inputs is such a list.
-/

namespace Switchboard

/-- What the receiver of a connection is told. -/
inductive TransportEvent where
  | data (message : Bytes)
  | disconnected
  | error (reason : String)
  deriving DecidableEq, Repr

namespace Connection

/-- How far a connection has come: it reads and writes, it is about to clear the framer, it is about
to tell the senders, or nothing is left to do. -/
inductive Stage where
  | active
  | leaving
  | cleared
  | ended
  deriving DecidableEq, Repr

/-- What a connection does next. A message is written when it has been queued the longest, and a
connection is abandoned when it finds that there are no senders. -/
inductive Step where
  | read (chunk : Bytes)
  | endOfStream
  | broken (reason : String)
  | write
  | abandoned
  | clear
  | finish
  deriving DecidableEq, Repr

end Connection

/-- A connection as its owner and its two ends see it: whether the senders take it for connected,
the messages that are still to be written, the events that the receiver has not taken yet, and the
bytes that the other end has got. -/
structure Connection where
  stage : Connection.Stage
  connected : Bool
  queue : List Bytes
  events : List TransportEvent
  written : Bytes
  deriving DecidableEq, Repr

namespace Connection

/-- A connection that has just been made. -/
def fresh : Connection := ⟨.active, true, [], [], []⟩

/-- Queues an event, if somebody hears it. -/
def tell (heard : Bool) (e : TransportEvent) (c : Connection) : Connection :=
  if heard then { c with events := c.events ++ [e] } else c

/-- Gives up reading and writing. -/
def leave (c : Connection) : Connection := { c with stage := .leaving }

/-- What becomes of the messages of a chunk. Without a receiver the first of them ends the
connection. -/
def deliver (heard : Bool) (messages : List Bytes) (c : Connection) : Connection :=
  if heard then { c with events := c.events ++ messages.map .data }
  else if messages.isEmpty then c
  else c.leave

/-- One step, which may change the framer. `held` tells whether there is a sender and `heard`
whether there is a receiver. A step that is not possible changes nothing. -/
def step (held heard : Bool) (f : Framer) (c : Connection) : Step → Framer × Connection
  | .read chunk =>
    if c.stage = .active then
      match f.decode chunk with
      | (.ok messages, f) => (f, c.deliver heard messages)
      | (.error e, f) => (f, (c.tell heard (.error e.message)).leave)
    else (f, c)
  | .endOfStream =>
    if c.stage = .active then (f, (c.tell heard .disconnected).leave) else (f, c)
  | .broken reason =>
    if c.stage = .active then (f, (c.tell heard (.error reason)).leave) else (f, c)
  | .write =>
    match c.queue with
    | message :: rest =>
      if c.stage = .active then
        (f, { c with queue := rest, written := c.written ++ f.encode message })
      else (f, c)
    | [] => (f, c)
  | .abandoned =>
    if c.stage = .active ∧ c.queue = [] ∧ held = false then (f, c.leave) else (f, c)
  | .clear =>
    if c.stage = .leaving then (f.clear, { c with stage := .cleared }) else (f, c)
  | .finish =>
    if c.stage = .cleared then (f, { c with stage := .ended, connected := false }) else (f, c)

/-- How many messages can be queued at a time. -/
def capacity : Nat := 1000

/-- What becomes of a message that a sender is given. -/
inductive Sent where
  | queued
  | waits
  | refused (e : TransportError)
  deriving DecidableEq, Repr

/-- A sender queues a message if there is room for it and for those ahead of it, and waits otherwise.
When the connection has ended the message is refused. -/
def enqueue (c : Connection) (ahead : Nat) (message : Bytes) : Sent × Connection :=
  if c.stage = .ended then (.refused (.sendFailed "Channel closed"), c)
  else if c.queue.length + ahead < capacity then (.queued, { c with queue := c.queue ++ [message] })
  else (.waits, c)

/-- A sender is given a message, with others ahead of it. It asks first whether the connection is
connected; a sender that waits does not ask again. -/
def send (c : Connection) (ahead : Nat) (message : Bytes) : Sent × Connection :=
  if c.connected then c.enqueue ahead message else (.refused .notConnected, c)

/-- How many of those that wait in line are ahead of a sender, each with its place. A sender without
a place is behind them all. -/
def ahead (line : List Nat) : Option Nat → Nat
  | some place => line.countP (· < place)
  | none => line.length

/-- The place behind a line. -/
def behind (line : List Nat) : Nat := line.max?.elim 0 (· + 1)

/-- A sender goes on with a message, for which it may have a place in line. -/
def offer (c : Connection) (line : List Nat) (place : Option Nat) (message : Bytes) :
    Sent × Connection :=
  if place.isSome then c.enqueue (ahead line place) message else c.send (ahead line place) message

/-- The steps by which a connection comes to answer a sender that waits, when nothing else happens:
it writes until there is room, and when it writes no more it comes to its end. -/
def relief (c : Connection) : List Step :=
  if c.stage = .active then List.replicate (c.queue.length + 1 - capacity) .write
  else [.clear, .finish]

/-- Takes these steps. -/
def relieve (f : Framer) (c : Connection) : Framer × Connection :=
  c.relief.foldl (fun (f, c) step => c.step true true f step) (f, c)

/-- A sender is given a message and waits for the answer, while nothing else happens and nobody is
ahead of it. -/
def await (f : Framer) (c : Connection) (message : Bytes) : Sent × Framer × Connection :=
  match c.send 0 message with
  | (.waits, c) =>
    let (f, c) := c.relieve f
    let (sent, c) := c.enqueue 0 message
    (sent, f, c)
  | (sent, c) => (sent, f, c)

/-- A sender takes the connection for ended from now on; it goes on all the same. -/
def close (c : Connection) : Connection := { c with connected := false }

/-- What the receiver gets when it asks for the next event: one, nothing yet, or nothing any more. -/
inductive Received where
  | event (e : TransportEvent)
  | pending
  | closed
  deriving DecidableEq, Repr

/-- The receiver takes the event that has waited the longest. -/
def receive (c : Connection) : Received × Connection :=
  match c.events with
  | e :: rest => (.event e, { c with events := rest })
  | [] => (if c.stage = .ended then .closed else .pending, c)

end Connection

end Switchboard
