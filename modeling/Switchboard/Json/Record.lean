import Switchboard.Json.Skip
import Switchboard.Json.Printer
import Switchboard.Text.Quoted

/-!
# Records of a document

A record has named fields in an order. A document gives it as an object, in which unknown keys are
passed over and no field may come twice, or as a list of its fields in order. A value of another
kind is a fault that names what was found: a value that holds no other is taken first, a list or an
object is not.
-/

namespace Switchboard.Json

/-- How a value is called that was found in place of another. -/
def describe : Json → String
  | .null => "null"
  | .bool b => "boolean `" ++ (if b then "true" else "false") ++ "`"
  | .number (.integer i) => "integer `" ++ toString i ++ "`"
  | .number (.float f) => "floating point `" ++ Decimal.Layout.document.write f ++ "`"
  | .string s => "string " ++ Text.quoted s
  | .array _ => "sequence"
  | .object _ => "map"

/-- The fault of a value, at the front of the bytes, that is not of the expected kind. -/
def wrongType (expected : String) (bytes : Bytes) : Stop :=
  match readScalar bytes with
  | .error stop => stop
  | .ok (some (value, rest)) => .after (.wrongType (describe value) expected) rest
  | .ok none =>
    let found := if bytes.head? = some 0x5B then "sequence" else "map"
    .after (.wrongType found expected) bytes

/-- A string. -/
def expectString (bytes : Bytes) : Except Stop (String × Bytes) :=
  match skipSpace bytes with
  | 0x22 :: rest => readString rest
  | rest => .error (wrongType "a string" rest)

/-- How many lists and objects may stand inside one that opens here. -/
def enter (depth : Nat) (bytes : Bytes) : Except Stop Nat :=
  match depth with
  | 0 => .error (.at .tooDeep bytes)
  | inner + 1 => .ok inner

/-- A list of items. -/
def expectList {α : Type} (item : (depth : Nat) → Bytes → Except Stop (α × Bytes))
    (bound depth : Nat) (bytes : Bytes) : Except Stop (List α × Bytes) :=
  match skipSpace bytes with
  | 0x5B :: rest => do readItems (item (← enter depth (0x5B :: rest))) bound true [] rest
  | rest => .error (wrongType "a sequence" rest)

/-- A table of values. -/
def expectTable (bound depth : Nat) (bytes : Bytes) : Except Stop (Table Json × Bytes) :=
  match skipSpace bytes with
  | 0x7B :: rest => do
    readFields (readValue bound (← enter depth (0x7B :: rest))) bound true [] rest
  | rest => .error (wrongType "a map" rest)

/-- A field of a record that is read into a draft of it. `isSet` tells whether the draft has it, and
`read` reads it into the draft while `depth` lists and objects may stand inside it. -/
structure Field (σ : Type) where
  name : String
  required : Bool
  isSet : σ → Bool
  read : (depth : Nat) → σ → Bytes → Except Stop (σ × Bytes)

/-- The bytes after an object that is given up: its closing brace counts when it comes next. -/
def afterBrace (bytes : Bytes) : Bytes :=
  match skipSpace bytes with
  | 0x7D :: rest => rest
  | rest => rest

/-- The fields of a record given as an object, after the opening brace. -/
def recordFields {σ : Type} (fields : List (Field σ)) (depth bound : Nat) :
    (left : Nat) → (first : Bool) → σ → Bytes → Except Stop (σ × Bytes)
  | 0, _, _, bytes => .error (.at .endInObject bytes)
  | left + 1, first, draft, bytes => do
    match ← nextKey first bytes with
    | (.close, rest) =>
      match fields.find? (fun f => f.required && !f.isSet draft) with
      | some f => throw (.after (.missingField f.name) (afterBrace rest))
      | none => return (draft, rest.drop 1)
    | (.part, rest) =>
      let (key, rest) ← readString rest
      match fields.find? (fun f => f.name == key) with
      | none => recordFields fields depth bound left false draft (← skipValue bound (← readColon rest))
      | some f =>
        if f.isSet draft then
          throw (.after (.duplicateField f.name) (afterBrace rest))
        let (draft, rest) ← f.read depth draft (← readColon rest)
        recordFields fields depth bound left false draft rest

/-- The end of a record given as a list. -/
def endOfList (bytes : Bytes) : Except Stop Bytes :=
  match skipSpace bytes with
  | [] => .error (.at .endInList [])
  | b :: rest =>
    if b = 0x5D then .ok rest
    else if b = 0x2C then
      match skipSpace rest with
      | 0x5D :: more => .error (.at .trailingComma (0x5D :: more))
      | more => .error (.at .trailingCharacters more)
    else .error (.at .trailingCharacters (b :: rest))

/-- The fields of a record given as a list, after the opening bracket; `index` counts those that
the list has had a place for. -/
def recordItems {σ : Type} (expected : String) (depth : Nat) :
    (index : Nat) → List (Field σ) → (first : Bool) → σ → Bytes → Except Stop (σ × Bytes)
  | _, [], _, draft, bytes => do return (draft, ← endOfList bytes)
  | index, f :: fields, first, draft, bytes => do
    match ← nextItem first bytes with
    | (.close, rest) =>
      if f.required then
        throw (.after (.wrongLength index expected) (rest.drop 1))
      else
        recordItems expected depth (index + 1) fields first draft rest
    | (.part, rest) =>
      let (draft, rest) ← f.read depth draft rest
      recordItems expected depth (index + 1) fields false draft rest

/-- A record of the given name and fields, read into a draft. -/
def readRecord {σ : Type} (name : String) (fields : List (Field σ)) (empty : σ)
    (bound depth : Nat) (bytes : Bytes) : Except Stop (σ × Bytes) :=
  let title := "struct " ++ name
  match skipSpace bytes with
  | 0x7B :: rest => do
    recordFields fields (← enter depth (0x7B :: rest)) bound bound true empty rest
  | 0x5B :: rest => do
    let expected := title ++ s!" with {fields.length} elements"
    recordItems expected (← enter depth (0x5B :: rest)) 0 fields true empty rest
  | rest => .error (wrongType title rest)

end Switchboard.Json
