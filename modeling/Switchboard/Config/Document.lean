import Switchboard.Config.Basic
import Switchboard.Toml.Reader

/-!
# Configurations of a value

A configuration that has already been read as a value: records are tables with the names of their
fields as keys, or lists of their fields in order. Keys and items that a record has no place for
are passed over.
-/

namespace Switchboard

namespace Json

/-- The fields of a record of the given names: those of a table, or the items of a list. -/
def recordFields? (names : List String) : Json → Option (Table Json)
  | .object fields => some fields
  | .array items => some (names.zip items)
  | _ => none

/-- The items of a field, each read by `item`; none if the field is absent. -/
def listField? {α : Type} (fields : Table Json) (name : String) (item : Json → Option α) :
    Option (List α) :=
  match fields.find? name with
  | none => some []
  | some (.array items) => items.mapM item
  | some _ => none

/-- The parameters of a field; none if the field is absent. -/
def paramsField? (fields : Table Json) : Option Params :=
  match fields.find? "params" with
  | none => some .empty
  | some (.object values) => some ⟨values⟩
  | some _ => none

/-- A field that is a string. -/
def stringField? (fields : Table Json) (name : String) : Option String :=
  (fields.find? name).bind asString?

end Json

/-- The module of a value. -/
def ModuleConfig.ofValue? (value : Json) : Option ModuleConfig := do
  let fields ← value.recordFields? ["id", "type", "params"]
  some ⟨← Json.stringField? fields "id", ← Json.stringField? fields "type",
    ← Json.paramsField? fields⟩

/-- The step of a value. -/
def ProcessorConfig.ofValue? (value : Json) : Option ProcessorConfig := do
  let fields ← value.recordFields? ["type", "params"]
  some ⟨← Json.stringField? fields "type", ← Json.paramsField? fields⟩

/-- The route of a value. -/
def RouteConfig.ofValue? (value : Json) : Option RouteConfig := do
  let fields ← value.recordFields? ["input", "processors", "output"]
  some ⟨← Json.stringField? fields "input",
    ← Json.listField? fields "processors" ProcessorConfig.ofValue?,
    ← Json.stringField? fields "output"⟩

/-- The configuration of a value. -/
def Config.ofValue? (value : Json) : Option Config := do
  let fields ← value.recordFields? ["modules", "routes"]
  some ⟨← Json.listField? fields "modules" ModuleConfig.ofValue?,
    ← Json.listField? fields "routes" RouteConfig.ofValue?⟩

/-- The configuration of a TOML text. -/
def Config.ofTomlText? (document : String) : Option Config :=
  (Toml.readText document).bind Config.ofValue?

end Switchboard
