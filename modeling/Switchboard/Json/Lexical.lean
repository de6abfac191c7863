import Switchboard.Json.Basic
import Switchboard.Json.Fault
import Switchboard.Decimal.Number
import Switchboard.Text.Utf8

/-!
# Blanks, words, strings and numbers of a document

Each reader takes what it reads off the front of the bytes and answers it with the rest.

An integer of at most 64 bits is exact. Any other number is read with the digits that fit into 64
bits; later digits count only through the exponent. The value is then multiplied or divided once by
a power of ten, and so is not always the nearest double.
-/

namespace Switchboard.Json

/-- Blanks between the parts of a document. -/
def isSpace (b : UInt8) : Bool := b == 0x20 || b == 0x0A || b == 0x09 || b == 0x0D

/-- The bytes after the blanks at the front. -/
def skipSpace (bytes : Bytes) : Bytes := bytes.dropWhile isSpace

/-- Takes the bytes of a word, which stops at the first that differs. -/
def readWord : (word : Bytes) → Bytes → Except Stop Bytes
  | [], rest => .ok rest
  | _ :: _, [] => .error (.after .endInValue [])
  | w :: word, b :: rest =>
    if b = w then readWord word rest else .error (.after .expectedWord rest)

/-! ## Strings -/

/-- The value of a hexadecimal digit. -/
def hexValue? (b : UInt8) : Option Nat :=
  if 0x30 ≤ b ∧ b ≤ 0x39 then some (b.toNat - 0x30)
  else if 0x61 ≤ b ∧ b ≤ 0x66 then some (b.toNat - 0x57)
  else if 0x41 ≤ b ∧ b ≤ 0x46 then some (b.toNat - 0x37)
  else none

/-- The value of four hexadecimal digits. -/
def hexValue4? (a b c d : UInt8) : Option Nat := do
  return (((← hexValue? a) * 16 + (← hexValue? b)) * 16 + (← hexValue? c)) * 16 + (← hexValue? d)

/-- The code unit of four hexadecimal digits at the front. -/
def hexUnit : Bytes → Except Stop Nat
  | a :: b :: c :: d :: rest =>
    match hexValue4? a b c d with
    | some unit => .ok unit
    | none => .error (.after .invalidEscape rest)
  | _ => .error (.after .endInString [])

/-- Whether a code unit is the first half of a surrogate pair. -/
def isLeading (unit : Nat) : Bool := 0xD800 ≤ unit && unit ≤ 0xDBFF

/-- Whether a code unit is the second half of a surrogate pair. -/
def isTrailing (unit : Nat) : Bool := 0xDC00 ≤ unit && unit ≤ 0xDFFF

/-- The character of an escape by code units, and how many bytes it takes after `\u`. -/
def unicodeEscape (bytes : Bytes) : Except Stop (Char × Nat) := do
  let unit ← hexUnit bytes
  let rest := bytes.drop 4
  if isTrailing unit then
    throw (.after .loneSurrogate rest)
  else if !isLeading unit then
    return (Char.ofNat unit, 4)
  else
    match rest with
    | [] => throw (.after .endInString [])
    | 0x5C :: [] => throw (.after .endInString [])
    | 0x5C :: 0x75 :: more =>
      let second ← hexUnit more
      if isTrailing second then
        return (Char.ofNat (0x10000 + (unit - 0xD800) * 0x400 + (second - 0xDC00)), 10)
      else
        throw (.after .loneSurrogate (more.drop 4))
    | 0x5C :: _ :: more => throw (.after .endOfHexEscape more)
    | _ :: more => throw (.after .endOfHexEscape more)

/-- The character of an escape, and how many bytes it takes after the backslash. -/
def escape : Bytes → Except Stop (Char × Nat)
  | [] => .error (.after .endInString [])
  | b :: rest =>
    if b = 0x22 then .ok ('"', 1)
    else if b = 0x5C then .ok ('\\', 1)
    else if b = 0x2F then .ok ('/', 1)
    else if b = 0x62 then .ok (Char.ofNat 0x08, 1)
    else if b = 0x66 then .ok (Char.ofNat 0x0C, 1)
    else if b = 0x6E then .ok (Char.ofNat 0x0A, 1)
    else if b = 0x72 then .ok (Char.ofNat 0x0D, 1)
    else if b = 0x74 then .ok (Char.ofNat 0x09, 1)
    else if b = 0x75 then (unicodeEscape rest).map fun (c, size) => (c, size + 1)
    else .error (.after .invalidEscape rest)

/-- The bytes of a string after its opening quote; `done` holds those so far, last first. -/
def stringBytes (done : Bytes) : Bytes → Except Stop (Bytes × Bytes)
  | [] => .error (.after .endInString [])
  | b :: rest =>
    if b = 0x22 then
      .ok (done.reverse, rest)
    else if b = 0x5C then
      match escape rest with
      | .error stop => .error stop
      | .ok (c, size) => stringBytes ((Utf8.encodeChar c).reverse ++ done) (rest.drop size)
    else if b < 0x20 then
      .error (.after .controlCharacter rest)
    else
      stringBytes (b :: done) rest
termination_by bytes => bytes.length
decreasing_by
  · simp only [List.length_drop, List.length_cons]
    omega
  · simp

/-- A string after its opening quote. A fault of its bytes lies as far before the closing quote as
the string goes on after its well-formed part. -/
def readString (bytes : Bytes) : Except Stop (String × Bytes) := do
  let (content, rest) ← stringBytes [] bytes
  match Utf8.decode content with
  | .ok s => return (s, rest)
  | .error malformed =>
    throw ⟨.invalidCodePoint, rest.length, content.length - malformed.index⟩

/-! ## Numbers -/

/-- Whether a byte is a decimal digit. -/
def isDigit (b : UInt8) : Bool := 0x30 ≤ b && b ≤ 0x39

/-- The value of a decimal digit. -/
def digitValue (b : UInt8) : Nat := b.toNat - 0x30

/-- Whether the next byte is a decimal digit. -/
def startsWithDigit : Bytes → Bool
  | b :: _ => isDigit b
  | [] => false

/-- Appends digits to `significand` while it stays below `2 ^ 64`; counts them. -/
def keepDigits (significand count : Nat) : Bytes → Nat × Nat × Bytes
  | [] => (significand, count, [])
  | b :: rest =>
    if isDigit b ∧ significand * 10 + digitValue b < 0x10000000000000000 then
      keepDigits (significand * 10 + digitValue b) (count + 1) rest
    else
      (significand, count, b :: rest)

/-- Divides by a power of ten in steps of at most 308, until nothing is left. -/
def divideByTen (f : Float) (exponent : Nat) : Float :=
  if exponent ≤ 308 then f / Decimal.nearestDecimal false 1 exponent
  else if f == 0 then f
  else divideByTen (f / Decimal.nearestDecimal false 1 308) (exponent - 308)
termination_by exponent

/-- The double of a significand and an exponent of ten, if it is in range. -/
def scale? (significand : Nat) (exponent : Int) : Option Float :=
  let f := Binary64.ofInt significand
  if exponent < 0 then
    some (divideByTen f (-exponent).toNat)
  else if exponent ≤ 308 then
    let product := f * Decimal.nearestDecimal false 1 exponent
    if product.isInf then none else some product
  else if significand = 0 then
    some f
  else
    none

/-- A double as a number, with its sign. -/
def floatNumber (negative : Bool) (f : Float) : JsonNumber := .float (if negative then -f else f)

/-- The number of a significand and an exponent, or a fault before `rest`. -/
def scaledNumber (negative : Bool) (significand : Nat) (exponent : Int) (rest : Bytes) :
    Except Stop (JsonNumber × Bytes) :=
  match scale? significand exponent with
  | some f => .ok (floatNumber negative f, rest)
  | none => .error (.after .numberOutOfRange rest)

/-- The digits of an exponent after its first, as long as they fit into 31 bits. An exponent that
does not fit gives zero, or a fault when it makes the number too large. -/
def exponentDigits (negative : Bool) (significand : Nat) (start : Int) (down : Bool)
    (exponent : Nat) : Bytes → Except Stop (JsonNumber × Bytes)
  | [] => scaledNumber negative significand (if down then start - exponent else start + exponent) []
  | b :: rest =>
    if !isDigit b then
      scaledNumber negative significand (if down then start - exponent else start + exponent)
        (b :: rest)
    else if exponent * 10 + digitValue b < 0x80000000 then
      exponentDigits negative significand start down (exponent * 10 + digitValue b) rest
    else if significand ≠ 0 ∧ !down then
      .error (.after .numberOutOfRange rest)
    else
      .ok (floatNumber negative 0, rest.dropWhile isDigit)

/-- An exponent after its mark. -/
def readExponent (negative : Bool) (significand : Nat) (start : Int) (bytes : Bytes) :
    Except Stop (JsonNumber × Bytes) :=
  let (down, digits) := match bytes with
    | 0x2B :: rest => (false, rest)
    | 0x2D :: rest => (true, rest)
    | rest => (false, rest)
  match digits with
  | [] => .error (.after .endInValue [])
  | b :: rest =>
    if isDigit b then exponentDigits negative significand start down (digitValue b) rest
    else .error (.after .invalidNumber rest)

/-- Whether the next byte marks an exponent. -/
def startsExponent : Bytes → Bool
  | b :: _ => b == 0x65 || b == 0x45
  | [] => false

/-- A fraction after its point. -/
def readFraction (negative : Bool) (significand : Nat) (start : Int) (bytes : Bytes) :
    Except Stop (JsonNumber × Bytes) :=
  let (significand', count, rest) := keepDigits significand 0 bytes
  let after := rest.dropWhile isDigit
  if bytes.isEmpty then
    .error (.at .endInValue [])
  else if !startsWithDigit bytes then
    .error (.at .invalidNumber bytes)
  else if startsExponent after then
    readExponent negative significand' (start - count) (after.drop 1)
  else
    scaledNumber negative significand' (start - count) after

/-- What follows the integral digits of a number. `long` says that not all of them fitted, and
`start` counts those that did not. -/
def readAfterInteger (negative : Bool) (significand : Nat) (long : Bool) (start : Nat)
    (bytes : Bytes) : Except Stop (JsonNumber × Bytes) :=
  match bytes with
  | 0x2E :: rest => readFraction negative significand start rest
  | bytes =>
    if startsExponent bytes then readExponent negative significand start (bytes.drop 1)
    else if long then scaledNumber negative significand start bytes
    else if !negative then .ok (.integer significand, bytes)
    else if 1 ≤ significand ∧ significand ≤ 0x8000000000000000 then .ok (.integer (-significand), bytes)
    else .ok (floatNumber true (Binary64.ofInt significand), bytes)

/-- A number after its sign. -/
def readNumber (negative : Bool) : Bytes → Except Stop (JsonNumber × Bytes)
  | [] => .error (.after .endInValue [])
  | b :: rest =>
    if b = 0x30 then
      if startsWithDigit rest then .error (.at .invalidNumber rest)
      else readAfterInteger negative 0 false 0 rest
    else if isDigit b then
      let (significand, _, after) := keepDigits (digitValue b) 1 rest
      let dropped := after.takeWhile isDigit
      readAfterInteger negative significand (!dropped.isEmpty) dropped.length
        (after.drop dropped.length)
    else
      .error (.after .invalidNumber rest)

end Switchboard.Json
