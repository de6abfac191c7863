import Switchboard.Registry.Builtin
import Switchboard.Router.Basic

/-!
# Building routers

A router is built of what a configuration lists and the registries know. An entry that cannot be
built is reported with its place and left out, and the router runs with the others.
-/

namespace Switchboard

/-- Why a module is left out. -/
inductive ModuleFault where
  | emptyId
  | duplicateId (id : String)
  | unknownType (type : String)
  | construction (e : ModuleError)
  deriving DecidableEq, Repr

/-- How the fault reads. -/
def ModuleFault.message : ModuleFault → String
  | .emptyId => "module id is empty"
  | .duplicateId id => "duplicate module id " ++ id
  | .unknownType type => "unknown module type " ++ type
  | .construction e => "constructor failed: " ++ e.message

/-- A module that is left out. -/
structure ModuleLoadError where
  index : Nat
  id : String
  fault : ModuleFault
  deriving DecidableEq, Repr

/-- How the error reads. -/
def ModuleLoadError.message (e : ModuleLoadError) : String :=
  "module " ++ toString e.index ++ " (" ++ e.id ++ "): " ++ e.fault.message

/-- A route that is left out. -/
structure RouteLoadError where
  index : Nat
  input : String
  output : String
  fault : RouteFault

/-- How the error reads. -/
def RouteLoadError.message (e : RouteLoadError) : String :=
  "route " ++ toString e.index ++ " (" ++ e.input ++ " -> " ++ e.output ++ "): " ++ e.fault.message

/-- A router and what is missing in it. -/
structure Assembly (M : Type) where
  router : Router M
  moduleErrors : List ModuleLoadError
  routeErrors : List RouteLoadError
  log : List LogEntry

namespace Assembly

section

variable {C P M : Type} {m : Type → Type} [Monad m]

/-- Builds one module, given those that have been built. `construct` is how a constructor is
called, which may have effects. -/
def buildModule (construct : C → ModuleConfig → m (Except ModuleError M)) (registry : Registry C)
    (built : Table M) (config : ModuleConfig) : m (Except ModuleFault M) :=
  if config.id = "" then pure (.error .emptyId)
  else if (built.find? config.id).isSome then pure (.error (.duplicateId config.id))
  else
    match registry.lookup config.type with
    | none => pure (.error (.unknownType config.type))
    | some constructor => do
      match ← construct constructor config with
      | .ok made => return .ok made
      | .error e => return .error (.construction e)

/-- The modules that have been built and those that are left out. -/
structure Modules (M : Type) where
  built : Table M
  errors : List ModuleLoadError
  log : List LogEntry

/-- Builds modules in order; `index` is the place of the first. -/
def buildModules (construct : C → ModuleConfig → m (Except ModuleError M)) (registry : Registry C)
    (index : Nat) (built : Table M) : List ModuleConfig → m (Modules M)
  | [] => pure ⟨built, [], []⟩
  | config :: rest => do
    match ← buildModule construct registry built config with
    | .ok made =>
      let later ← buildModules construct registry (index + 1) (built.insert config.id made) rest
      let told := "Module " ++ config.id ++ " (" ++ config.type ++ ") created"
      return { later with log := ⟨.info, told⟩ :: later.log }
    | .error fault =>
      let later ← buildModules construct registry (index + 1) built rest
      return { later with errors := ⟨index, config.id, fault⟩ :: later.errors }

/-- The routes that have been built and those that are left out. -/
structure Routes where
  built : List Route
  errors : List RouteLoadError

/-- Builds routes in order; `index` is the place of the first. -/
def buildRoutes (construct : P → Params → m (Except ProcessError Processor))
    (registry : Registry P) (index : Nat) : List RouteConfig → m Routes
  | [] => pure ⟨[], []⟩
  | config :: rest => do
    match ← Route.buildWith construct registry index config with
    | .ok route =>
      let later ← buildRoutes construct registry (index + 1) rest
      return { later with built := route :: later.built }
    | .error fault =>
      let later ← buildRoutes construct registry (index + 1) rest
      return { later with errors := ⟨index, config.input, config.output, fault⟩ :: later.errors }

/-- Warns of a route whose destination is no module. -/
def warnUnknown (modules : Table M) (route : Route) : Option LogEntry :=
  if (modules.find? route.output).isSome then none
  else
    some ⟨.warn, "Route " ++ toString route.index ++ " outputs to unknown module " ++ route.output⟩

/-- Warns of an entry that is left out. -/
def warnSkipped (message : String) : LogEntry := ⟨.warn, "Skipping " ++ message⟩

/-- Builds a router of a configuration. -/
def ofConfigWith (constructModule : C → ModuleConfig → m (Except ModuleError M))
    (constructProcessor : P → Params → m (Except ProcessError Processor))
    (modules : Registry C) (processors : Registry P) (config : Config) : m (Assembly M) := do
  let modules ← buildModules constructModule modules 0 [] config.modules
  let routes ← buildRoutes constructProcessor processors 0 config.routes
  return {
    router := ⟨modules.built, routes.built⟩
    moduleErrors := modules.errors
    routeErrors := routes.errors
    log := modules.log ++ routes.built.filterMap (warnUnknown modules.built) ++
      modules.errors.map (fun e => warnSkipped e.message) ++
      routes.errors.map (fun e => warnSkipped e.message) }

end

/-- Builds a router with constructors that have no effects. -/
def ofConfig (registries : Registries) (config : Config) : Assembly Module :=
  Id.run (ofConfigWith (fun constructor entry => pure (constructor entry))
    (fun constructor params => pure (constructor params)) registries.modules
    registries.processors config)

/-- How many entries are left out. -/
def rejected {M : Type} (a : Assembly M) : Nat := a.moduleErrors.length + a.routeErrors.length

end Assembly

end Switchboard
