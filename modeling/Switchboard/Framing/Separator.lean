import Switchboard.Bytes
import Switchboard.Transport.Error

/-!
# Messages that end with a separator

A separator is one or two bytes. The decoder holds the unfinished message and an offset before
which no separator begins, so that a chunk is searched once. A message longer than the limit is
refused, and so is an unfinished one as soon as its length is past the limit for certain; the
decoder then starts afresh.
-/

namespace Switchboard

/-- The one or two bytes that end a message. -/
structure Separator where
  bytes : Bytes
  one_le : 1 ≤ bytes.length
  le_two : bytes.length ≤ 2

namespace Separator

/-- The separator of the given bytes, if there are one or two. -/
def ofBytes (bytes : Bytes) : Except TransportError Separator :=
  if h : 1 ≤ bytes.length ∧ bytes.length ≤ 2 then
    .ok ⟨bytes, h.1, h.2⟩
  else
    .error (.invalidFraming s!"separator must be 1 or 2 bytes, got {bytes.length}")

/-- A carriage return. -/
def cr : Separator := ⟨[0x0D], by decide, by decide⟩

/-- A line feed. -/
def lf : Separator := ⟨[0x0A], by decide, by decide⟩

/-- A carriage return and a line feed. -/
def crlf : Separator := ⟨[0x0D, 0x0A], by decide, by decide⟩

/-- The offset of the first occurrence of the separator in a byte string that itself begins at
`offset`. -/
def find? (s : Separator) (offset : Nat) : Bytes → Option Nat
  | [] => none
  | b :: rest =>
    if s.bytes.isPrefixOf (b :: rest) then some offset else s.find? (offset + 1) rest

theorem ne_nil_of_find? {s : Separator} {offset found : Nat} {bytes : Bytes}
    (h : s.find? offset bytes = some found) : bytes ≠ [] := by
  intro hnil
  simp [hnil, find?] at h

/-- What follows a separator that has been found is shorter than the whole. -/
theorem length_drop_lt_of_find? {s : Separator} {scanned found : Nat} {buffer : Bytes}
    (h : s.find? scanned (buffer.drop scanned) = some found) :
    (buffer.drop (found + s.bytes.length)).length < buffer.length := by
  have hne : buffer ≠ [] := fun hnil => ne_nil_of_find? h (by simp [hnil])
  have hlen := List.length_pos_iff.2 hne
  have hone := s.one_le
  rw [List.length_drop]
  omega

/-- Takes the finished messages off the front of `buffer`, in which no separator begins before
`scanned`. Answers the messages and what is left, or the length of the first message that is
longer than `limit`. -/
def split (s : Separator) (limit scanned : Nat) (done : List Bytes) (buffer : Bytes) :
    Except Nat (List Bytes × Bytes) :=
  match _h : s.find? scanned (buffer.drop scanned) with
  | none => .ok (done.reverse, buffer)
  | some found =>
    if limit < found then
      .error found
    else
      s.split limit 0 (buffer.take found :: done) (buffer.drop (found + s.bytes.length))
termination_by buffer.length
decreasing_by exact length_drop_lt_of_find? _h

end Separator

/-- The decoder of messages that end with a separator. No separator begins in `pending` before the
offset `scanned`. -/
structure SeparatorFramer where
  separator : Separator
  limit : Nat
  pending : Bytes := []
  scanned : Nat := 0

namespace SeparatorFramer

/-- The decoder as it was built: nothing pending. -/
def clear (f : SeparatorFramer) : SeparatorFramer := { f with pending := [], scanned := 0 }

/-- Refuses a message of `size` bytes and starts afresh. -/
def refuse (f : SeparatorFramer) (size : Nat) :
    Except TransportError (List Bytes) × SeparatorFramer :=
  (.error (.messageTooLarge size f.limit), f.clear)

/-- Feeds one chunk: the messages it finishes, in order, and the decoder after it. When a message
is refused, the messages that the same chunk finished before it are lost. -/
def decode (f : SeparatorFramer) (chunk : Bytes) :
    Except TransportError (List Bytes) × SeparatorFramer :=
  match f.separator.split f.limit f.scanned [] (f.pending ++ chunk) with
  | .error size => f.refuse size
  | .ok (messages, rest) =>
    -- A separator may begin in the last byte and end in the next chunk.
    let scanned := rest.length - (f.separator.bytes.length - 1)
    if f.limit < scanned then
      f.refuse scanned
    else
      (.ok messages, { f with pending := rest, scanned := scanned })

/-- A message as it is sent. -/
def encode (f : SeparatorFramer) (message : Bytes) : Bytes := message ++ f.separator.bytes

end SeparatorFramer

end Switchboard
