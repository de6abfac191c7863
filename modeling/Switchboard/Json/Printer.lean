import Switchboard.Json.Basic
import Switchboard.Decimal.Layout

/-!
# Compact text of structured values

No blanks. Inside a string the quote, the backslash and the control characters below U+0020 are
escaped, and nothing else is.
-/

namespace Switchboard.Json

/-- A lower-case hexadecimal digit. -/
def hexDigit (n : Nat) : Char := (Nat.digitChar (n % 16))

/-- A character inside a string. -/
def escapeChar (c : Char) : List Char :=
  if c = '"' then ['\\', '"']
  else if c = '\\' then ['\\', '\\']
  else if c.toNat = 0x08 then ['\\', 'b']
  else if c.toNat = 0x09 then ['\\', 't']
  else if c.toNat = 0x0A then ['\\', 'n']
  else if c.toNat = 0x0C then ['\\', 'f']
  else if c.toNat = 0x0D then ['\\', 'r']
  else if c.toNat < 0x20 then
    ['\\', 'u', '0', '0', hexDigit (c.toNat / 16), hexDigit c.toNat]
  else [c]

/-- A string between quotes. -/
def writeString (s : String) : List Char := '"' :: (s.toList.flatMap escapeChar ++ ['"'])

/-- A number. -/
def writeNumber : JsonNumber → List Char
  | .integer i => (toString i).toList
  | .float f => (Decimal.Layout.document.write f).toList

mutual

/-- The text of a value. -/
def write : Json → List Char
  | .null => "null".toList
  | .bool true => "true".toList
  | .bool false => "false".toList
  | .number n => writeNumber n
  | .string s => writeString s
  | .array items => '[' :: (writeItems items ++ [']'])
  | .object fields => '{' :: (writeFields fields ++ ['}'])

/-- The texts of list items, with commas between them. -/
def writeItems : List Json → List Char
  | [] => []
  | item :: rest => write item ++ writeMoreItems rest

/-- The texts of further list items, a comma before each. -/
def writeMoreItems : List Json → List Char
  | [] => []
  | item :: rest => ',' :: (write item ++ writeMoreItems rest)

/-- The texts of fields, with commas between them. -/
def writeFields : List (String × Json) → List Char
  | [] => []
  | (key, value) :: rest => writeString key ++ ':' :: (write value ++ writeMoreFields rest)

/-- The texts of further fields, a comma before each. -/
def writeMoreFields : List (String × Json) → List Char
  | [] => []
  | (key, value) :: rest =>
    ',' :: (writeString key ++ ':' :: (write value ++ writeMoreFields rest))

end

/-- The compact text of a value. -/
def text (j : Json) : String := String.ofList j.write

end Switchboard.Json
