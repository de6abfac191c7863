import Switchboard.Config.Basic
import Switchboard.Json.Record

/-!
# Reading configurations

Ids, types, inputs and outputs are required; parameters, processors, modules and routes may be
absent and are empty then.
-/

namespace Switchboard

open Json (Stop)

/-- Reads parameters. -/
def Params.reader (bound depth : Nat) (bytes : Bytes) : Except Stop (Params × Bytes) := do
  let (fields, rest) ← Json.expectTable bound depth bytes
  return (⟨fields⟩, rest)

/-- The parameters of a text. -/
def Params.ofText (document : String) : Except Json.Failure Params :=
  Json.readDocument (fun bound => Params.reader bound Json.maxDepth) (Utf8.encode document)

/-- A module that is being read. -/
structure ModuleDraft where
  id : Option String := none
  type : Option String := none
  params : Option Params := none

/-- The fields of a module. -/
def ModuleDraft.fields (bound : Nat) : List (Json.Field ModuleDraft) := [
  ⟨"id", true, fun d => d.id.isSome, fun _ d bytes => do
    let (s, rest) ← Json.expectString bytes
    return ({ d with id := some s }, rest)⟩,
  ⟨"type", true, fun d => d.type.isSome, fun _ d bytes => do
    let (s, rest) ← Json.expectString bytes
    return ({ d with type := some s }, rest)⟩,
  ⟨"params", false, fun d => d.params.isSome, fun depth d bytes => do
    let (p, rest) ← Params.reader bound depth bytes
    return ({ d with params := some p }, rest)⟩]

/-- Reads a module. -/
def ModuleConfig.reader (bound depth : Nat) (bytes : Bytes) :
    Except Stop (ModuleConfig × Bytes) := do
  let (d, rest) ←
    Json.readRecord "ModuleConfig" (ModuleDraft.fields bound) {} bound depth bytes
  return (⟨d.id.getD "", d.type.getD "", d.params.getD .empty⟩, rest)

/-- A step of a route that is being read. -/
structure ProcessorDraft where
  type : Option String := none
  params : Option Params := none

/-- The fields of a step. -/
def ProcessorDraft.fields (bound : Nat) : List (Json.Field ProcessorDraft) := [
  ⟨"type", true, fun d => d.type.isSome, fun _ d bytes => do
    let (s, rest) ← Json.expectString bytes
    return ({ d with type := some s }, rest)⟩,
  ⟨"params", false, fun d => d.params.isSome, fun depth d bytes => do
    let (p, rest) ← Params.reader bound depth bytes
    return ({ d with params := some p }, rest)⟩]

/-- Reads a step of a route. -/
def ProcessorConfig.reader (bound depth : Nat) (bytes : Bytes) :
    Except Stop (ProcessorConfig × Bytes) := do
  let (d, rest) ←
    Json.readRecord "ProcessorConfig" (ProcessorDraft.fields bound) {} bound depth bytes
  return (⟨d.type.getD "", d.params.getD .empty⟩, rest)

/-- A route that is being read. -/
structure RouteDraft where
  input : Option String := none
  processors : Option (List ProcessorConfig) := none
  output : Option String := none

/-- The fields of a route. -/
def RouteDraft.fields (bound : Nat) : List (Json.Field RouteDraft) := [
  ⟨"input", true, fun d => d.input.isSome, fun _ d bytes => do
    let (s, rest) ← Json.expectString bytes
    return ({ d with input := some s }, rest)⟩,
  ⟨"processors", false, fun d => d.processors.isSome, fun depth d bytes => do
    let (ps, rest) ← Json.expectList (ProcessorConfig.reader bound) bound depth bytes
    return ({ d with processors := some ps }, rest)⟩,
  ⟨"output", true, fun d => d.output.isSome, fun _ d bytes => do
    let (s, rest) ← Json.expectString bytes
    return ({ d with output := some s }, rest)⟩]

/-- Reads a route. -/
def RouteConfig.reader (bound depth : Nat) (bytes : Bytes) :
    Except Stop (RouteConfig × Bytes) := do
  let (d, rest) ← Json.readRecord "RouteConfig" (RouteDraft.fields bound) {} bound depth bytes
  return (⟨d.input.getD "", d.processors.getD [], d.output.getD ""⟩, rest)

/-- The route of a text. -/
def RouteConfig.ofText (document : String) : Except Json.Failure RouteConfig :=
  Json.readDocument (fun bound => RouteConfig.reader bound Json.maxDepth) (Utf8.encode document)

/-- A configuration that is being read. -/
structure ConfigDraft where
  modules : Option (List ModuleConfig) := none
  routes : Option (List RouteConfig) := none

/-- The fields of a configuration. -/
def ConfigDraft.fields (bound : Nat) : List (Json.Field ConfigDraft) := [
  ⟨"modules", false, fun d => d.modules.isSome, fun depth d bytes => do
    let (ms, rest) ← Json.expectList (ModuleConfig.reader bound) bound depth bytes
    return ({ d with modules := some ms }, rest)⟩,
  ⟨"routes", false, fun d => d.routes.isSome, fun depth d bytes => do
    let (rs, rest) ← Json.expectList (RouteConfig.reader bound) bound depth bytes
    return ({ d with routes := some rs }, rest)⟩]

/-- Reads a configuration. -/
def Config.reader (bound depth : Nat) (bytes : Bytes) : Except Stop (Config × Bytes) := do
  let (d, rest) ← Json.readRecord "Config" (ConfigDraft.fields bound) {} bound depth bytes
  return (⟨d.modules.getD [], d.routes.getD []⟩, rest)

/-- The configuration of a JSON text. -/
def Config.ofJsonText (document : String) : Except Json.Failure Config :=
  Json.readDocument (fun bound => Config.reader bound Json.maxDepth) (Utf8.encode document)

end Switchboard
