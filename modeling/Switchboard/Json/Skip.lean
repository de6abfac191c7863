import Switchboard.Json.Reader

/-!
# Passing over a value

A value that nobody asked for is passed over. Lists and objects in it may stand inside each other
to any depth, half surrogate pairs and numbers of any size are let through, and a control character
in a string is met before it is taken.
-/

namespace Switchboard.Json

/-- How many bytes an escape takes after the backslash. -/
def escapeSize : Bytes → Except Stop Nat
  | [] => .error (.after .endInString [])
  | b :: rest =>
    if b = 0x75 then (hexUnit rest).map fun _ => 5
    else (escape (b :: rest)).map Prod.snd

/-- The bytes after a string whose opening quote has been taken. -/
def skipString : Bytes → Except Stop Bytes
  | [] => .error (.after .endInString [])
  | b :: rest =>
    if b = 0x22 then .ok rest
    else if b = 0x5C then
      match escapeSize rest with
      | .error stop => .error stop
      | .ok size => skipString (rest.drop size)
    else if b < 0x20 then .error (.after .controlCharacter (b :: rest))
    else skipString rest
termination_by bytes => bytes.length
decreasing_by
  · simp only [List.length_drop, List.length_cons]
    omega
  · simp

/-- The bytes after an exponent whose mark has been taken. -/
def skipExponent (bytes : Bytes) : Except Stop Bytes :=
  let digits := match bytes with
    | b :: rest => if b = 0x2B ∨ b = 0x2D then rest else b :: rest
    | [] => []
  if startsWithDigit digits then .ok (digits.dropWhile isDigit)
  else .error (.after .invalidNumber (digits.drop 1))

/-- The bytes after a number whose sign has been taken. -/
def skipNumber : Bytes → Except Stop Bytes
  | [] => .error (.after .invalidNumber [])
  | b :: rest => do
    let whole ←
      if b = 0x30 then
        if startsWithDigit rest then throw (.at .invalidNumber rest) else pure rest
      else if isDigit b then pure (rest.dropWhile isDigit)
      else throw (.after .invalidNumber rest)
    match whole with
    | 0x2E :: fraction =>
      if !startsWithDigit fraction then throw (.at .invalidNumber fraction)
      let after := fraction.dropWhile isDigit
      if startsExponent after then skipExponent (after.drop 1) else return after
    | after => if startsExponent after then skipExponent (after.drop 1) else return after

/-- A list or an object that has been opened. -/
inductive Bracket where
  | list
  | object

/-- Passes over the ends of lists and objects, up to the next part of one that is still open. The
brackets are those that are open, innermost first; `fresh` says that nothing has been read since
the innermost was opened. No brackets are left at the end of the whole value. -/
def skipEnds : List Bracket → (fresh : Bool) → Bytes → Except Stop (List Bracket × Bytes)
  | [], _, bytes => .ok ([], bytes)
  | bracket :: outer, fresh, bytes =>
    match skipSpace bytes, bracket with
    | [], .list => .error (.at .endInList [])
    | [], .object => .error (.at .endInObject [])
    | b :: rest, bracket =>
      if b = 0x2C ∧ !fresh then .ok (bracket :: outer, rest)
      else match bracket with
        | .list =>
          if b = 0x5D then skipEnds outer false rest
          else if fresh then .ok (.list :: outer, b :: rest)
          else .error (.at .expectedCommaOrBracket (b :: rest))
        | .object =>
          if b = 0x7D then skipEnds outer false rest
          else if fresh then .ok (.object :: outer, b :: rest)
          else .error (.at .expectedCommaOrBrace (b :: rest))

/-- Passes over a key and its colon. -/
def skipKey (bytes : Bytes) : Except Stop Bytes :=
  match skipSpace bytes with
  | [] => .error (.at .endInObject [])
  | b :: rest => do
    if b = 0x22 then readColon (← skipString rest) else throw (.at .keyNotString (b :: rest))

/-- Passes over one value that holds no other, or opens a list or an object. -/
def skipFront (bytes : Bytes) : Except Stop (Option Bracket × Bytes) :=
  match skipSpace bytes with
  | [] => .error (.at .endInValue [])
  | b :: rest => do
    if b = 0x5B then return (some .list, rest)
    else if b = 0x7B then return (some .object, rest)
    else if b = 0x2D then return (none, ← skipNumber rest)
    else if isDigit b then return (none, ← skipNumber (b :: rest))
    else if b = 0x22 then return (none, ← skipString rest)
    else if b = 0x6E then return (none, ← readWord [0x75, 0x6C, 0x6C] rest)
    else if b = 0x74 then return (none, ← readWord [0x72, 0x75, 0x65] rest)
    else if b = 0x66 then return (none, ← readWord [0x61, 0x6C, 0x73, 0x65] rest)
    else throw (.at .expectedValue (b :: rest))

/-- Passes over the rest of a value whose brackets are open, at the beginning of a value in it.
There are at most `bound` such values. -/
def skipFrom : (bound : Nat) → List Bracket → Bytes → Except Stop Bytes
  | 0, _, bytes => .error (.at .endInValue bytes)
  | bound + 1, opened, bytes => do
    let (bracket, rest) ← skipFront bytes
    let (opened, rest) ← skipEnds (bracket.toList ++ opened) bracket.isSome rest
    match opened with
    | [] => return rest
    | .list :: _ => skipFrom bound opened rest
    | .object :: _ => skipFrom bound opened (← skipKey rest)

/-- The bytes after a value of a document with fewer than `bound` bytes. -/
def skipValue (bound : Nat) (bytes : Bytes) : Except Stop Bytes := skipFrom bound [] bytes

end Switchboard.Json
