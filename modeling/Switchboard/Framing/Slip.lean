import Switchboard.Bytes
import Switchboard.Transport.Error

/-!
# Messages between delimiters, with byte stuffing

The delimiter END ends a message and may also begin one. Inside a message END is written as ESC
ESC_END and ESC as ESC ESC_ESC. Any other byte after ESC is dropped together with it, and the
message goes on. A message of no bytes is no message.
-/

namespace Switchboard

namespace Slip

/-- The delimiter. -/
def endByte : UInt8 := 0xC0

/-- The byte that begins a pair. -/
def escByte : UInt8 := 0xDB

/-- After ESC, stands for END. -/
def escEndByte : UInt8 := 0xDC

/-- After ESC, stands for ESC. -/
def escEscByte : UInt8 := 0xDD

/-- A byte of a message as it is sent. -/
def stuff (b : UInt8) : Bytes :=
  if b = endByte then [escByte, escEndByte]
  else if b = escByte then [escByte, escEscByte]
  else [b]

/-- A message as it is sent: its stuffed bytes between two delimiters. -/
def encode (message : Bytes) : Bytes := endByte :: (message.flatMap stuff ++ [endByte])

end Slip

/-- The decoder of stuffed messages. `escaped` tells that the last byte was an ESC that waits for
its partner. -/
structure SlipFramer where
  limit : Nat
  pending : Array UInt8 := #[]
  escaped : Bool := false

namespace SlipFramer

open Slip

/-- The decoder as it was built: nothing pending. -/
def clear (f : SlipFramer) : SlipFramer := { f with pending := #[], escaped := false }

/-- Takes one byte: the message that it finishes, if any, and the decoder after it. -/
def step (f : SlipFramer) (b : UInt8) : Option Bytes × SlipFramer :=
  if f.escaped then
    if b = escEndByte then
      (none, { f with pending := f.pending.push endByte, escaped := false })
    else if b = escEscByte then
      (none, { f with pending := f.pending.push escByte, escaped := false })
    else
      (none, { f with escaped := false })
  else if b = escByte then
    (none, { f with escaped := true })
  else if b = endByte then
    if f.pending.isEmpty then
      (none, f)
    else
      (some f.pending.toList, { f with pending := #[] })
  else
    (none, { f with pending := f.pending.push b })

/-- Takes the bytes of a chunk one by one; `done` holds the finished messages, last first. -/
def decodeFrom (done : List Bytes) (f : SlipFramer) :
    Bytes → Except TransportError (List Bytes) × SlipFramer
  | [] => (.ok done.reverse, f)
  | b :: rest =>
    match f.step b with
    | (message, f') =>
      if f'.limit < f'.pending.size then
        (.error (.messageTooLarge f'.pending.size f'.limit), f'.clear)
      else
        decodeFrom (message.toList ++ done) f' rest

/-- Feeds one chunk: the messages it finishes, in order, and the decoder after it. A message that
grows past the limit is refused, the messages that the same chunk finished before it are lost, and
the decoder starts afresh. -/
def decode (f : SlipFramer) (chunk : Bytes) : Except TransportError (List Bytes) × SlipFramer :=
  decodeFrom [] f chunk

end SlipFramer

end Switchboard
