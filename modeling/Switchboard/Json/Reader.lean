import Switchboard.Json.Lexical

/-!
# Reading a document

A document is one value with blanks around it. At most 127 lists and objects may stand inside each
other. Lists and objects hold no more parts than the document has bytes, which bounds the loops
that read them.
-/

namespace Switchboard.Json

/-- What comes next in a list or an object. -/
inductive Next where
  | close
  | part

/-- Looks for the next item of a list; `first` says that none has been read. -/
def nextItem (first : Bool) (bytes : Bytes) : Except Stop (Next × Bytes) :=
  match skipSpace bytes with
  | [] => .error (.at .endInList [])
  | b :: rest =>
    if b = 0x5D then .ok (.close, b :: rest)
    else if first then .ok (.part, b :: rest)
    else if b = 0x2C then
      match skipSpace rest with
      | [] => .error (.at .endInValue [])
      | c :: more =>
        if c = 0x5D then .error (.at .trailingComma (c :: more)) else .ok (.part, c :: more)
    else .error (.at .expectedCommaOrBracket (b :: rest))

/-- Looks for the next key of an object and takes its quote; `first` says that none has been
read. -/
def nextKey (first : Bool) (bytes : Bytes) : Except Stop (Next × Bytes) :=
  let key : Bytes → Except Stop (Next × Bytes)
    | [] => .error (.at .endInValue [])
    | b :: rest =>
      if b = 0x22 then .ok (.part, rest)
      else if b = 0x7D then .error (.at .trailingComma (b :: rest))
      else .error (.at .keyNotString (b :: rest))
  match skipSpace bytes with
  | [] => .error (.at .endInObject [])
  | b :: rest =>
    if b = 0x7D then .ok (.close, b :: rest)
    else if first then key (b :: rest)
    else if b = 0x2C then key (skipSpace rest)
    else .error (.at .expectedCommaOrBrace (b :: rest))

/-- Takes the colon after a key. -/
def readColon (bytes : Bytes) : Except Stop Bytes :=
  match skipSpace bytes with
  | [] => .error (.at .endInObject [])
  | b :: rest => if b = 0x3A then .ok rest else .error (.at .expectedColon (b :: rest))

/-- The items of a list after its opening bracket, up to and with the closing one. -/
def readItems {α : Type} (item : Bytes → Except Stop (α × Bytes)) :
    (bound : Nat) → (first : Bool) → (done : List α) → Bytes → Except Stop (List α × Bytes)
  | 0, _, _, bytes => .error (.at .endInList bytes)
  | bound + 1, first, done, bytes => do
    match ← nextItem first bytes with
    | (.close, rest) => return (done.reverse, rest.drop 1)
    | (.part, rest) =>
      let (value, rest) ← item rest
      readItems item bound false (value :: done) rest

/-- The fields of an object after its opening brace, up to and with the closing one. A later field
replaces an earlier one of its key. -/
def readFields {α : Type} (value : Bytes → Except Stop (α × Bytes)) :
    (bound : Nat) → (first : Bool) → Table α → Bytes → Except Stop (Table α × Bytes)
  | 0, _, _, bytes => .error (.at .endInObject bytes)
  | bound + 1, first, fields, bytes => do
    match ← nextKey first bytes with
    | (.close, rest) => return (fields, rest.drop 1)
    | (.part, rest) =>
      let (key, rest) ← readString rest
      let (v, rest) ← value (← readColon rest)
      readFields value bound false (Table.insert key v fields) rest

/-- A value that holds no other value; `none` when a list or an object begins. -/
def readScalar (bytes : Bytes) : Except Stop (Option (Json × Bytes)) :=
  match bytes with
  | [] => .error (.at .endInValue [])
  | b :: rest =>
    if b = 0x6E then do return some (.null, ← readWord [0x75, 0x6C, 0x6C] rest)
    else if b = 0x74 then do return some (.bool true, ← readWord [0x72, 0x75, 0x65] rest)
    else if b = 0x66 then do return some (.bool false, ← readWord [0x61, 0x6C, 0x73, 0x65] rest)
    else if b = 0x2D then do
      let (n, after) ← readNumber true rest
      return some (.number n, after)
    else if isDigit b then do
      let (n, after) ← readNumber false (b :: rest)
      return some (.number n, after)
    else if b = 0x22 then do
      let (s, after) ← readString rest
      return some (.string s, after)
    else if b = 0x5B ∨ b = 0x7B then .ok none
    else .error (.at .expectedValue (b :: rest))

/-- A value, with blanks before it. `depth` lists and objects may stand inside each other, and
each has at most `bound` parts. -/
def readValue (bound : Nat) : (depth : Nat) → Bytes → Except Stop (Json × Bytes)
  | 0, bytes => do
    match ← readScalar (skipSpace bytes) with
    | some answer => return answer
    | none => throw (.at .tooDeep (skipSpace bytes))
  | depth + 1, bytes => do
    match ← readScalar (skipSpace bytes) with
    | some answer => return answer
    | none =>
      match skipSpace bytes with
      | 0x5B :: rest =>
        let (items, rest) ← readItems (readValue bound depth) bound true [] rest
        return (.array items, rest)
      | rest =>
        let (fields, rest) ← readFields (readValue bound depth) bound true [] (rest.drop 1)
        return (.object fields, rest)

/-- How many lists and objects may stand inside each other. -/
def maxDepth : Nat := 127

/-- Reads a whole document with the given reader, which is told a bound on the parts of lists and
objects. -/
def readDocument {α : Type} (reader : (bound : Nat) → Bytes → Except Stop (α × Bytes)) (document : Bytes) :
    Except Failure α :=
  match reader (document.length + 1) document with
  | .error stop => .error (stop.locate document)
  | .ok (value, rest) =>
    match skipSpace rest with
    | [] => .ok value
    | b :: more => .error ((Stop.at .trailingCharacters (b :: more)).locate document)

/-- The value of a document. -/
def read (document : Bytes) : Except Failure Json :=
  readDocument (fun bound => readValue bound maxDepth) document

/-- The value of a document that is a text. -/
def readText (document : String) : Except Failure Json := read (Utf8.encode document)

end Switchboard.Json
