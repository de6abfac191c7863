import Switchboard.Params

/-!
# Configurations

A configuration lists the modules to build and the routes between them. Serialised, a record shows
its fields in the order of their declaration and parameters show theirs in key order.
-/

namespace Switchboard

/-- One module. -/
structure ModuleConfig where
  id : String
  type : String
  params : Params

/-- One step of a route. -/
structure ProcessorConfig where
  type : String
  params : Params

/-- One route: where payloads come from, what they pass through and where they go. -/
structure RouteConfig where
  input : String
  processors : List ProcessorConfig
  output : String

/-- A whole configuration. -/
structure Config where
  modules : List ModuleConfig
  routes : List RouteConfig

namespace ModuleConfig

/-- A module without parameters. -/
def ofType (id type : String) : ModuleConfig := ⟨id, type, .empty⟩

/-- The module with the given parameters. -/
def withParams (m : ModuleConfig) (params : Params) : ModuleConfig := { m with params := params }

/-- The module as a record of a document. -/
def toDocument (m : ModuleConfig) : Json :=
  .object [("id", .string m.id), ("type", .string m.type), ("params", m.params.toJson)]

/-- Equality of ids, types and parameters. -/
def same (m n : ModuleConfig) : Bool := m.id == n.id && m.type == n.type && m.params == n.params

instance : BEq ModuleConfig := ⟨same⟩

end ModuleConfig

namespace ProcessorConfig

/-- A step without parameters. -/
def ofType (type : String) : ProcessorConfig := ⟨type, .empty⟩

/-- The step with the given parameters. -/
def withParams (p : ProcessorConfig) (params : Params) : ProcessorConfig :=
  { p with params := params }

/-- The step as a record of a document. -/
def toDocument (p : ProcessorConfig) : Json :=
  .object [("type", .string p.type), ("params", p.params.toJson)]

/-- Equality of types and parameters. -/
def same (p q : ProcessorConfig) : Bool := p.type == q.type && p.params == q.params

instance : BEq ProcessorConfig := ⟨same⟩

end ProcessorConfig

namespace RouteConfig

/-- A route without steps. -/
def between (input output : String) : RouteConfig := ⟨input, [], output⟩

/-- The route with one more step. -/
def withProcessor (r : RouteConfig) (p : ProcessorConfig) : RouteConfig :=
  { r with processors := r.processors ++ [p] }

/-- The route as a record of a document. -/
def toDocument (r : RouteConfig) : Json :=
  .object [("input", .string r.input),
    ("processors", .array (r.processors.map ProcessorConfig.toDocument)),
    ("output", .string r.output)]

/-- Equality of ends and steps. -/
def same (r s : RouteConfig) : Bool :=
  r.input == s.input && r.processors == s.processors && r.output == s.output

instance : BEq RouteConfig := ⟨same⟩

end RouteConfig

namespace Config

/-- The configuration without modules and routes. -/
def empty : Config := ⟨[], []⟩

/-- The configuration as a record of a document. -/
def toDocument (c : Config) : Json :=
  .object [("modules", .array (c.modules.map ModuleConfig.toDocument)),
    ("routes", .array (c.routes.map RouteConfig.toDocument))]

/-- The compact text of the configuration. -/
def serialize (c : Config) : String := c.toDocument.text

/-- Equality of modules and routes, in order. -/
def same (c d : Config) : Bool := c.modules == d.modules && c.routes == d.routes

instance : BEq Config := ⟨same⟩

end Config

end Switchboard
