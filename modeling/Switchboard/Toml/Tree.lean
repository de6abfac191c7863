import Switchboard.Json.Basic

/-!
# The tables of a TOML document

A document names its tables in three ways: by a header, by a header of a table inside it, and by
dots in a key. A table is named once by a header, and dots do not reopen a table that a header
names; no key is given twice.
-/

namespace Switchboard.Toml

/-- How a table came to be. A table has its own header, or comes from the header of a table inside
it or from dots in a key. -/
inductive Origin where
  | header
  | inner
  | dots
  deriving DecidableEq, Repr

/-- What stands under a key. The elements of a list of tables are kept last first. A value does not
change any more. -/
inductive Node where
  | value (v : Json)
  | table (origin : Origin) (entries : List (String × Node))
  | tables (elements : List (List (String × Node)))

/-- The entries of a table. -/
abbrev Entries := Table Node

/-- Changes the table at a path by `change`, which is told how the table came to be. Tables that
are missing on the way are made; `origin` is that of the table in hand. A list of tables stands for
its last one. -/
def alter (byDots : Bool) (change : Origin → Entries → Option Entries) :
    (path : List String) → Origin → Entries → Option Entries
  | [], origin, entries => change origin entries
  | key :: path, _, entries => do
    let node ← match entries.find? key with
      | none =>
        let made := if byDots then .dots else .inner
        some (Node.table made (← alter byDots change path made []))
      | some (.value _) => none
      | some (.tables []) => none
      | some (.tables (last :: earlier)) =>
        some (.tables ((← alter byDots change path .header last) :: earlier))
      | some (.table origin inside) =>
        if byDots ∧ origin = .header then none
        else some (.table origin (← alter byDots change path origin inside))
    some (entries.insert key node)

/-- Gives a key of several parts a value. -/
def addEntry (entries : Entries) (key : List String) (value : Json) : Option Entries :=
  match key.reverse with
  | [] => none
  | last :: path =>
    alter true (fun origin inside =>
      if decide (origin = .dots) = path.isEmpty then none
      else if (inside.find? last).isSome then none
      else some (inside.insert last (.value value)))
      path.reverse .header entries

/-- Gives keys their values, in order. -/
def addEntries (entries : Entries) (pairs : List (List String × Json)) : Option Entries :=
  pairs.foldlM (fun entries pair => addEntry entries pair.1 pair.2) entries

/-- Adds the table of a header with what stands under it. -/
def addTable (entries : Entries) (header : List String) (pairs : List (List String × Json)) :
    Option Entries :=
  match header.reverse with
  | [] => none
  | last :: path =>
    alter false (fun _ inside => do
      let own ← match inside.find? last with
        | none => some []
        | some (.table .inner own) => some own
        | some _ => none
      some (inside.insert last (.table .header (← addEntries own pairs))))
      path.reverse .header entries

/-- Adds an element to the list of tables of a header, with what stands under it. -/
def addElement (entries : Entries) (header : List String) (pairs : List (List String × Json)) :
    Option Entries :=
  match header.reverse with
  | [] => none
  | last :: path =>
    alter false (fun _ inside => do
      let elements ← match inside.find? last with
        | none => some []
        | some (.tables elements) => some elements
        | some _ => none
      some (inside.insert last (.tables ((← addEntries [] pairs) :: elements))))
      path.reverse .header entries

mutual

/-- What stands under a key, as a value. -/
def Node.toJson : Node → Json
  | .value v => v
  | .table _ entries => .object (entriesToJson entries)
  | .tables elements => .array (elementsToJson elements).reverse

/-- The values of the entries of a table. -/
def entriesToJson : List (String × Node) → List (String × Json)
  | [] => []
  | (key, node) :: rest => (key, node.toJson) :: entriesToJson rest

/-- The values of the elements of a list of tables. -/
def elementsToJson : List (List (String × Node)) → List Json
  | [] => []
  | entries :: rest => .object (entriesToJson entries) :: elementsToJson rest

end

end Switchboard.Toml
