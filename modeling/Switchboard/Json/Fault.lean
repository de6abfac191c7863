import Switchboard.Bytes

/-!
# What is wrong with a document

A fault is met at a place, given as the number of bytes that were left there. Some faults are met
by looking at a byte before it is taken: their place is one byte further, if there is one.
Positions count lines from one and the bytes of a line from one.
-/

namespace Switchboard.Json

/-- What is wrong with a document. -/
inductive Fault where
  | endInValue
  | endInList
  | endInObject
  | endInString
  | expectedWord
  | expectedValue
  | expectedCommaOrBracket
  | expectedCommaOrBrace
  | expectedColon
  | trailingComma
  | keyNotString
  | invalidNumber
  | numberOutOfRange
  | tooDeep
  | trailingCharacters
  | invalidEscape
  | controlCharacter
  | loneSurrogate
  | endOfHexEscape
  | invalidCodePoint
  | wrongType (found expected : String)
  | wrongLength (length : Nat) (expected : String)
  | missingField (name : String)
  | duplicateField (name : String)
  deriving DecidableEq, Repr

/-- How a fault reads. -/
def Fault.message : Fault → String
  | .endInValue => "EOF while parsing a value"
  | .endInList => "EOF while parsing a list"
  | .endInObject => "EOF while parsing an object"
  | .endInString => "EOF while parsing a string"
  | .expectedWord => "expected ident"
  | .expectedValue => "expected value"
  | .expectedCommaOrBracket => "expected `,` or `]`"
  | .expectedCommaOrBrace => "expected `,` or `\x7d`"
  | .expectedColon => "expected `:`"
  | .trailingComma => "trailing comma"
  | .keyNotString => "key must be a string"
  | .invalidNumber => "invalid number"
  | .numberOutOfRange => "number out of range"
  | .tooDeep => "recursion limit exceeded"
  | .trailingCharacters => "trailing characters"
  | .invalidEscape => "invalid escape"
  | .controlCharacter => "control character (\\u0000-\\u001F) found while parsing a string"
  | .loneSurrogate => "lone leading surrogate in hex escape"
  | .endOfHexEscape => "unexpected end of hex escape"
  | .invalidCodePoint => "invalid unicode code point"
  | .wrongType found expected => "invalid type: " ++ found ++ ", expected " ++ expected
  | .wrongLength length expected => s!"invalid length {length}, expected " ++ expected
  | .missingField name => "missing field `" ++ name ++ "`"
  | .duplicateField name => "duplicate field `" ++ name ++ "`"

/-- A fault and its place. The place is given by the bytes that are `left` there, and the fault lies
`back` columns before it. -/
structure Stop where
  fault : Fault
  left : Nat
  back : Nat := 0
  deriving DecidableEq, Repr

/-- A fault met after what has been taken. -/
def Stop.after (fault : Fault) (rest : Bytes) : Stop := ⟨fault, rest.length, 0⟩

/-- A fault of the byte that comes next, or of the end of the input. -/
def Stop.at (fault : Fault) (rest : Bytes) : Stop := ⟨fault, rest.length - 1, 0⟩

/-- A place in a document. Lines are counted from one, and the column is the number of bytes of the
line up to the place. -/
structure Position where
  line : Nat
  column : Nat
  deriving DecidableEq, Repr

/-- The place after some bytes. -/
def Position.after (taken : Bytes) : Position :=
  taken.foldl
    (fun p b => if b = 0x0A then ⟨p.line + 1, 0⟩ else ⟨p.line, p.column + 1⟩) ⟨1, 0⟩

/-- A fault with its position, as it is reported. -/
structure Failure where
  fault : Fault
  position : Position
  deriving DecidableEq, Repr

/-- How a failure reads. -/
def Failure.message (f : Failure) : String :=
  f.fault.message ++ s!" at line {f.position.line} column {f.position.column}"

/-- The position of a fault in the document in which it was met. -/
def Stop.locate (document : Bytes) (stop : Stop) : Failure :=
  let position := Position.after (document.take (document.length - stop.left))
  ⟨stop.fault, { position with column := position.column - stop.back }⟩

end Switchboard.Json
