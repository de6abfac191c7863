import Switchboard.Toml.Scalar
import Switchboard.Toml.Tree

/-!
# Reading a TOML document

A document is a run of statements, one a line: a key with its value, the header of a table, or the
header of an element of a list of tables. The keys up to the first header belong to the document
itself, the others to the header above them.
-/

namespace Switchboard.Toml

/-- The items of a list after its opening bracket, up to and with the closing one. Blanks, comments
and ends of lines may stand around items, and a comma after the last one. -/
def readItems (item : List Char → Option (Json × List Char)) :
    (bound : Nat) → (done : List Json) → List Char → Option (List Json × List Char)
  | 0, _, _ => none
  | bound + 1, done, cs =>
    match skipLayout false cs with
    | ']' :: rest => some (done.reverse, rest)
    | cs => do
      let (value, rest) ← item cs
      match skipLayout false rest with
      | ',' :: rest => readItems item bound (value :: done) rest
      | ']' :: rest => some ((value :: done).reverse, rest)
      | _ => none

/-- A key, the sign between and a value. -/
def readPair (value : List Char → Option (Json × List Char)) (cs : List Char) :
    Option ((List String × Json) × List Char) := do
  let (key, rest) ← readKey cs
  let rest ← expect '=' rest
  let (v, rest) ← value (skipBlank rest)
  some ((key, v), rest)

/-- The pairs of a table in braces, which is not empty, up to and with the closing one. -/
def readPairs (value : List Char → Option (Json × List Char)) :
    (bound : Nat) → (done : List (List String × Json)) → List Char →
    Option (List (List String × Json) × List Char)
  | 0, _, _ => none
  | bound + 1, done, cs => do
    let (pair, rest) ← readPair value cs
    match skipBlank rest with
    | ',' :: rest => readPairs value bound (pair :: done) rest
    | '}' :: rest => some ((pair :: done).reverse, rest)
    | _ => none

/-- The pairs of a table in braces, after the opening one. -/
def readBraced (value : List Char → Option (Json × List Char)) (bound : Nat) (cs : List Char) :
    Option (List (List String × Json) × List Char) :=
  match skipBlank cs with
  | '}' :: rest => some ([], rest)
  | cs => readPairs value bound [] cs

/-- A value. `depth` lists and tables may stand inside each other, and each has at most `bound`
parts. -/
def readValue (bound : Nat) : (depth : Nat) → List Char → Option (Json × List Char)
  | depth + 1, '[' :: rest => do
    let (items, rest) ← readItems (readValue bound depth) bound [] rest
    some (.array items, rest)
  | depth + 1, '{' :: rest => do
    let (pairs, rest) ← readBraced (readValue bound depth) bound rest
    let entries ← addEntries [] pairs
    some ((Node.table .header entries).toJson, rest)
  | _, cs => readScalar cs

/-- A statement of a document. -/
inductive Statement where
  | pair (key : List String) (value : Json)
  | table (header : List String)
  | element (header : List String)

/-- A statement, which does not begin with a blank. -/
def readStatement (bound : Nat) (cs : List Char) : Option (Statement × List Char) :=
  match cs with
  | '[' :: '[' :: rest => do
    let (header, rest) ← readKey rest
    some (.element header, ← expect ']' (← expect ']' rest))
  | '[' :: rest => do
    let (header, rest) ← readKey rest
    some (.table header, ← expect ']' rest)
  | _ => do
    let ((key, value), rest) ← readPair (readValue bound maxDepth) cs
    some (.pair key value, rest)

/-- The statements of a document. -/
def readStatements (bound : Nat) :
    (left : Nat) → (done : List Statement) → List Char → Option (List Statement)
  | 0, _, _ => none
  | left + 1, done, cs =>
    match skipLayout false cs with
    | [] => some done.reverse
    | rest => do
      let (statement, rest) ← readStatement bound rest
      readStatements bound left (statement :: done) (← lineEnd? rest)

/-- The pairs of the statements up to the first header, and the statements from there on. -/
def leadingPairs : List Statement → List (List String × Json) × List Statement
  | .pair key value :: rest =>
    let (pairs, rest) := leadingPairs rest
    ((key, value) :: pairs, rest)
  | rest => ([], rest)

/-- The entries of a document that has `bound` statements or fewer. -/
def assemble : (bound : Nat) → Entries → List Statement → Option Entries
  | _, entries, [] => some entries
  | 0, _, _ => none
  | bound + 1, entries, statement :: rest => do
    match statement with
    | .pair key value => assemble bound (← addEntry entries key value) rest
    | .table header =>
      let (pairs, rest) := leadingPairs rest
      assemble bound (← addTable entries header pairs) rest
    | .element header =>
      let (pairs, rest) := leadingPairs rest
      assemble bound (← addElement entries header pairs) rest

/-- The value of a document, if it is well formed. A byte order mark may come first. -/
def readText (document : String) : Option Json := do
  let cs := match document.toList with
    | '\uFEFF' :: rest => rest
    | cs => cs
  let bound := cs.length + 1
  let statements ← readStatements bound bound [] cs
  let entries ← assemble bound [] statements
  some (Node.table .header entries).toJson

end Switchboard.Toml
