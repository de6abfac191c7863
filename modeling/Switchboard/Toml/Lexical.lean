import Switchboard.Decimal.Integer

/-!
# Blanks, keys and strings of a TOML document

Readers take characters from the front and answer what they read with the characters after it, or
`none` where the document is not well formed. What takes nothing when it does not apply answers the
characters alone.
-/

namespace Switchboard.Toml

/-- A blank within a line. -/
def isBlank (c : Char) : Bool := c == ' ' || c == '\t'

/-- Passes over blanks within a line. -/
def skipBlank (cs : List Char) : List Char := cs.dropWhile isBlank

/-- The end of a line. -/
def newline? : List Char → Option (List Char)
  | '\n' :: rest => some rest
  | '\r' :: '\n' :: rest => some rest
  | _ => none

/-- A character that may stand in a line: a tab, or anything but a control character. -/
def isPlain (c : Char) : Bool := c == '\t' || (' ' ≤ c && c ≠ Char.ofNat 0x7F)

/-- Passes over a comment, up to the end of its line. -/
def skipComment : List Char → List Char
  | '#' :: rest => rest.dropWhile isPlain
  | cs => cs

/-- The end of a statement: blanks, perhaps a comment, and the end of the line or the document. -/
def lineEnd? (cs : List Char) : Option (List Char) :=
  match skipComment (skipBlank cs) with
  | [] => some []
  | rest => newline? rest

/-- Passes over blanks, ends of lines and comments, as they may stand between the items of a
list. -/
def skipLayout : (inComment : Bool) → List Char → List Char
  | _, '\n' :: rest => skipLayout false rest
  | _, '\r' :: '\n' :: rest => skipLayout false rest
  | false, '#' :: rest => skipLayout true rest
  | inComment, c :: rest =>
    if (if inComment then isPlain c else isBlank c) then skipLayout inComment rest else c :: rest
  | _, [] => []

/-! ## Strings -/

/-- The character whose number is written with the given count of hexadecimal digits. -/
def hexChar (count : Nat) (cs : List Char) : Option (Char × List Char) := do
  let digits := cs.take count
  if digits.length < count then none
  let number ← digits.foldlM (fun n c => do return n * 16 + (← Decimal.digitValue? 16 c)) 0
  if number.isValidChar then some (Char.ofNat number, cs.drop count) else none

/-- The character of an escape, after the backslash. -/
def escape : List Char → Option (Char × List Char)
  | 'b' :: rest => some (Char.ofNat 0x08, rest)
  | 't' :: rest => some ('\t', rest)
  | 'n' :: rest => some ('\n', rest)
  | 'f' :: rest => some (Char.ofNat 0x0C, rest)
  | 'r' :: rest => some ('\r', rest)
  | '"' :: rest => some ('"', rest)
  | '\\' :: rest => some ('\\', rest)
  | 'u' :: rest => hexChar 4 rest
  | 'U' :: rest => hexChar 8 rest
  | _ => none

/-- Passes over blanks and ends of lines; `none` if the first line does not end. -/
def skipLines? (cs : List Char) : Option (List Char) :=
  (newline? (skipBlank cs)).map (·.dropWhile fun c => isBlank c || c == '\n' || c == '\r')

/-- The text of a string of one line after its opening quote; `done` holds it last first, and
`left` bounds the characters. Escapes count where `quote` is the double one. -/
def readLine (quote : Char) : (left : Nat) → (done : List Char) → List Char →
    Option (String × List Char)
  | left + 1, done, c :: rest =>
    if c == quote then some (String.ofList done.reverse, rest)
    else if c == '\\' && quote == '"' then do
      let (e, rest) ← escape rest
      readLine quote left (e :: done) rest
    else if isPlain c then readLine quote left (c :: done) rest
    else none
  | _, _, _ => none

/-- The text of a string of several lines after its opening quotes. Each end of a line counts as
one line feed; a backslash at the end of a line joins it to the next that is not blank; up to two
quotes may stand before the closing three. -/
def readLines (quote : Char) : (left : Nat) → (done : List Char) → List Char →
    Option (String × List Char)
  | left + 1, done, c :: rest =>
    if c == quote then
      let run := (rest.takeWhile (· == quote)).length + 1
      if run < 3 then readLines quote left (c :: done) rest
      else
        let kept := Nat.min (run - 3) 2
        some (String.ofList (List.replicate kept quote ++ done).reverse, rest.drop (kept + 2))
    else if c == '\\' && quote == '"' then
      match skipLines? rest with
      | some rest => readLines quote left done rest
      | none => do
        let (e, rest) ← escape rest
        readLines quote left (e :: done) rest
    else
      match newline? (c :: rest) with
      | some rest => readLines quote left ('\n' :: done) rest
      | none => if isPlain c then readLines quote left (c :: done) rest else none
  | _, _, _ => none

/-- A string of either quote, of one line or of several. -/
def readString (cs : List Char) : Option (String × List Char) :=
  let several (quote : Char) (rest : List Char) :=
    readLines quote (rest.length + 1) [] ((newline? rest).getD rest)
  match cs with
  | '"' :: '"' :: '"' :: rest => several '"' rest
  | '\'' :: '\'' :: '\'' :: rest => several '\'' rest
  | '"' :: rest => readLine '"' (rest.length + 1) [] rest
  | '\'' :: rest => readLine '\'' (rest.length + 1) [] rest
  | _ => none

/-! ## Keys -/

/-- A character of a key without quotes. -/
def isBare (c : Char) : Bool := c.isAlphanum || c == '_' || c == '-'

/-- One part of a key: a string of one line, or characters without quotes. -/
def readKeyPart (cs : List Char) : Option (String × List Char) :=
  match cs with
  | '"' :: rest => readLine '"' (rest.length + 1) [] rest
  | '\'' :: rest => readLine '\'' (rest.length + 1) [] rest
  | _ =>
    let part := cs.takeWhile isBare
    if part.isEmpty then none else some (String.ofList part, cs.drop part.length)

/-- The parts of a key, with points between them and blanks around them. -/
def readKeyParts : (left : Nat) → (done : List String) → List Char →
    Option (List String × List Char)
  | 0, _, _ => none
  | left + 1, done, cs => do
    let (part, rest) ← readKeyPart (skipBlank cs)
    match skipBlank rest with
    | '.' :: rest => readKeyParts left (part :: done) rest
    | rest => some ((part :: done).reverse, rest)

/-- How many values may stand inside each other, and how many parts a key may have. -/
def maxDepth : Nat := 79

/-- A key of one or more parts. -/
def readKey (cs : List Char) : Option (List String × List Char) := readKeyParts maxDepth [] cs

end Switchboard.Toml
