import Switchboard.Decimal.Number
import Switchboard.Json.Basic
import Switchboard.Toml.Lexical

/-!
# Numbers and dates of a TOML document

A value that begins with a sign or a digit is a date or a time, else a number with a fraction or an
exponent, else an integer of 64 bits. Single underscores may stand between digits.
-/

namespace Switchboard.Toml

/-! ## Numbers -/

/-- Digits with single underscores between them, which are left out; `started` says that a digit
stands before. -/
def digitsWith (isDigit : Char → Bool) : (started : Bool) → List Char →
    Option (List Char × List Char)
  | true, '_' :: c :: rest => do
    if !isDigit c then none
    let (more, rest) ← digitsWith isDigit true rest
    some (c :: more, rest)
  | true, ['_'] => none
  | started, c :: rest => do
    if isDigit c then
      let (more, rest) ← digitsWith isDigit true rest
      some (c :: more, rest)
    else if started then some ([], c :: rest)
    else none
  | started, [] => if started then some ([], []) else none

/-- The digits of a decimal integer: a zero alone, or digits of which the first is no zero. -/
def decimalDigits : List Char → Option (List Char × List Char)
  | '0' :: rest => some (['0'], rest)
  | cs => digitsWith Char.isDigit false cs

/-- An optional sign. -/
def readSign : List Char → List Char × List Char
  | '+' :: rest => (['+'], rest)
  | '-' :: rest => (['-'], rest)
  | cs => ([], cs)

/-- An exponent, if its mark comes next. -/
def exponentPart (cs : List Char) : Option (List Char × List Char) :=
  match cs with
  | c :: rest =>
    if c == 'e' || c == 'E' then do
      let (sign, rest) := readSign rest
      let (digits, rest) ← digitsWith Char.isDigit false rest
      some ('e' :: (sign ++ digits), rest)
    else some ([], c :: rest)
  | [] => some ([], [])

/-- A fraction, if its point comes next. -/
def fractionPart (cs : List Char) : Option (List Char × List Char) :=
  match cs with
  | '.' :: rest => do
    let (digits, rest) ← digitsWith Char.isDigit false rest
    some ('.' :: digits, rest)
  | cs => some ([], cs)

/-- The double of a number text, unless it is above the greatest. -/
def finiteOrBelow (cs : List Char) : Option Json :=
  match Decimal.readNumber cs with
  | .ok f => if f.isInf && f > 0 then none else some (.ofFloat f)
  | .error _ => none

/-- A number with a fraction or an exponent, or a word for what is not finite. -/
def readFloat (cs : List Char) : Option (Json × List Char) :=
  let (sign, afterSign) := readSign cs
  match afterSign with
  | 'i' :: 'n' :: 'f' :: rest => some (.null, rest)
  | 'n' :: 'a' :: 'n' :: rest => some (.null, rest)
  | _ => do
    let (whole, rest) ← decimalDigits afterSign
    let (fraction, rest) ← fractionPart rest
    let (exponent, rest) ← exponentPart rest
    if fraction.isEmpty && exponent.isEmpty then none
    let value ← finiteOrBelow (sign ++ whole ++ fraction ++ exponent)
    some (value, rest)

/-- An integer of the given radix as a value. -/
def integerValue (radix : Nat) (cs : List Char) : Option Json :=
  match Decimal.readInteger radix cs with
  | .ok i => some (.ofInt i)
  | .error _ => none

/-- An integer: hexadecimal, octal, binary, or decimal with an optional sign. -/
def readInteger (cs : List Char) : Option (Json × List Char) := do
  let inRadix (radix : Nat) (cs : List Char) : Option (Json × List Char) := do
    let (digits, rest) ← digitsWith (fun c => (Decimal.digitValue? radix c).isSome) false cs
    some (← integerValue radix digits, rest)
  match cs with
  | '0' :: 'x' :: rest => inRadix 16 rest
  | '0' :: 'o' :: rest => inRadix 8 rest
  | '0' :: 'b' :: rest => inRadix 2 rest
  | cs =>
    let (sign, rest) := readSign cs
    let (digits, rest) ← decimalDigits rest
    some (← integerValue 10 (sign ++ digits), rest)

/-! ## Dates and times -/

/-- A number of exactly `count` digits, within bounds. -/
def fixedDigits (count low high : Nat) (cs : List Char) : Option (Nat × List Char) :=
  let digits := cs.take count
  let value := Decimal.digitsValue digits
  if digits.length == count && digits.all Char.isDigit && low ≤ value && value ≤ high then
    some (value, cs.drop count)
  else none

/-- A given character. -/
def expect (c : Char) : List Char → Option (List Char)
  | d :: rest => if c == d then some rest else none
  | [] => none

/-- How many days a month has. -/
def daysInMonth (year month : Nat) : Nat :=
  let leap := year % 4 == 0 && (year % 100 != 0 || year % 400 == 0)
  if month == 2 then (if leap then 29 else 28)
  else if month == 4 || month == 6 || month == 9 || month == 11 then 30
  else 31

/-- A number of at least `width` digits. -/
def padded (width n : Nat) : String :=
  let digits := toString n
  String.ofList (List.replicate (width - digits.length) '0') ++ digits

/-- A date, as year, month and day. -/
def readDate (cs : List Char) : Option (String × List Char) := do
  let (year, rest) ← fixedDigits 4 0 9999 cs
  let (month, rest) ← fixedDigits 2 1 12 (← expect '-' rest)
  let (day, rest) ← fixedDigits 2 1 (daysInMonth year month) (← expect '-' rest)
  some (padded 4 year ++ "-" ++ padded 2 month ++ "-" ++ padded 2 day, rest)

/-- A fraction of a second after its point: at most nine digits count, and zeros at the end do
not show. -/
def fractionText (digits : List Char) : String :=
  match ((digits.take 9).reverse.dropWhile (· == '0')).reverse with
  | [] => ""
  | shown => "." ++ String.ofList shown

/-- A time of day. -/
def readTime (cs : List Char) : Option (String × List Char) := do
  let (hour, rest) ← fixedDigits 2 0 23 cs
  let (minute, rest) ← fixedDigits 2 0 59 (← expect ':' rest)
  let (second, rest) ← fixedDigits 2 0 60 (← expect ':' rest)
  let time := padded 2 hour ++ ":" ++ padded 2 minute ++ ":" ++ padded 2 second
  match rest with
  | '.' :: rest =>
    let digits := rest.takeWhile Char.isDigit
    if digits.isEmpty then none
    some (time ++ fractionText digits, rest.drop digits.length)
  | rest => some (time, rest)

/-- The offset of a time from universal time, if one comes next. A zero offset has the sign
plus. -/
def readOffset (cs : List Char) : Option (String × List Char) :=
  let numeric (sign : String) (rest : List Char) : Option (String × List Char) := do
    let (hour, rest) ← fixedDigits 2 0 23 rest
    let (minute, rest) ← fixedDigits 2 0 59 (← expect ':' rest)
    let sign := if hour == 0 && minute == 0 then "+" else sign
    some (sign ++ padded 2 hour ++ ":" ++ padded 2 minute, rest)
  match cs with
  | 'Z' :: rest => some ("Z", rest)
  | 'z' :: rest => some ("Z", rest)
  | '+' :: rest => numeric "+" rest
  | '-' :: rest => numeric "-" rest
  | cs => some ("", cs)

/-- A time and its offset after a date, if they come next. -/
def readTimeOfDate (cs : List Char) : Option (String × List Char) :=
  match cs with
  | c :: rest =>
    if c == 'T' || c == 't' || c == ' ' then
      match readTime rest with
      | some (time, rest) => do
        let (offset, rest) ← readOffset rest
        some ("T" ++ time ++ offset, rest)
      | none => some ("", cs)
    else some ("", cs)
  | [] => some ("", cs)

/-- The key under which a date or a time stands as a value. -/
def dateKey : String := "$__toml_private_datetime"

/-- A date, a date with a time, or a time. -/
def readDateTime (cs : List Char) : Option (Json × List Char) :=
  let value (text : String) : Json := .object [(dateKey, .string text)]
  match readDate cs with
  | some (date, rest) => do
    let (time, rest) ← readTimeOfDate rest
    some (value (date ++ time), rest)
  | none => (readTime cs).map fun (time, rest) => (value time, rest)

/-! ## All of them -/

/-- A value that begins with a sign or a digit. -/
def readNumeric (cs : List Char) : Option (Json × List Char) :=
  readDateTime cs <|> readFloat cs <|> readInteger cs

/-- A value that holds no other value; `none` also where a list or a table begins. -/
def readScalar (cs : List Char) : Option (Json × List Char) :=
  match cs with
  | '"' :: _ => (readString cs).map fun (s, rest) => (.string s, rest)
  | '\'' :: _ => (readString cs).map fun (s, rest) => (.string s, rest)
  | 't' :: 'r' :: 'u' :: 'e' :: rest => some (.bool true, rest)
  | 'f' :: 'a' :: 'l' :: 's' :: 'e' :: rest => some (.bool false, rest)
  | _ => readNumeric cs

end Switchboard.Toml
