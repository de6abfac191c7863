import Switchboard.Framing.Separator
import Switchboard.Framing.Slip

/-!
# Framers

A framer cuts the chunks of a byte stream into messages and puts a message into the form in which
it is sent. Five methods have names; matching a name ignores the case of ASCII letters.
-/

namespace Switchboard

/-- The state of one decoder together with its way of encoding. -/
inductive Framer where
  | raw
  | separator (f : SeparatorFramer)
  | slip (f : SlipFramer)

namespace Framer

/-- Feeds one chunk: the messages it finishes, in order, or an error, and the framer after it. -/
def decode (f : Framer) (chunk : Bytes) : Except TransportError (List Bytes) × Framer :=
  match f with
  | .raw => (.ok [chunk], .raw)
  | .separator s => (s.decode chunk).map id .separator
  | .slip s => (s.decode chunk).map id .slip

/-- A message as it is sent. -/
def encode (f : Framer) (message : Bytes) : Bytes :=
  match f with
  | .raw => message
  | .separator s => s.encode message
  | .slip _ => Slip.encode message

/-- The framer with nothing pending. -/
def clear : Framer → Framer
  | .raw => .raw
  | .separator s => .separator s.clear
  | .slip s => .slip s.clear

/-- The greatest length of a message where nothing else is said. -/
def defaultLimit : Nat := 65536

end Framer

/-- The framings that have names. -/
inductive FramingMethod where
  | raw
  | cr
  | lf
  | crlf
  | slip
  deriving DecidableEq, Repr

namespace FramingMethod

/-- The name in parameters and texts. -/
def name : FramingMethod → String
  | .raw => "RAW"
  | .cr => "CR"
  | .lf => "LF"
  | .crlf => "CRLF"
  | .slip => "SLIP"

/-- The name as a word of mixed case. -/
def label : FramingMethod → String
  | .raw => "Raw"
  | .cr => "Cr"
  | .lf => "Lf"
  | .crlf => "CrLf"
  | .slip => "Slip"

/-- The methods in the order of their declaration. -/
def all : List FramingMethod := [.raw, .cr, .lf, .crlf, .slip]

/-- A name with its ASCII letters raised. -/
def raiseName (name : String) : String := String.ofList (name.toList.map Char.toUpper)

/-- The method of a name, in any case. -/
def ofName (text : String) : Except TransportError FramingMethod :=
  match all.find? (fun m => m.name == raiseName text) with
  | some m => .ok m
  | none => .error (.invalidFraming ("unknown framing method: " ++ raiseName text))

/-- A fresh framer that refuses messages longer than `limit`. -/
def build (m : FramingMethod) (limit : Nat := Framer.defaultLimit) : Framer :=
  match m with
  | .raw => .raw
  | .cr => .separator ⟨.cr, limit, [], 0⟩
  | .lf => .separator ⟨.lf, limit, [], 0⟩
  | .crlf => .separator ⟨.crlf, limit, [], 0⟩
  | .slip => .slip ⟨limit, #[], false⟩

end FramingMethod

end Switchboard
