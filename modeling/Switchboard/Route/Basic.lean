import Switchboard.Config.Basic
import Switchboard.Registry.Basic
import Switchboard.Route.Outcome

/-!
# Routes

A route leads from a source to a destination through processors, which are built once. A route is
built as a whole or not at all: the first processor that cannot be built is reported, and those
after it are not looked at.
-/

namespace Switchboard

/-- A route with its processors. -/
structure Route where
  index : Nat
  input : String
  processors : List Processor
  output : String

/-- Why a route cannot be built. -/
inductive RouteFault where
  | unknownProcessor (position : Nat) (type : String)
  | construction (position : Nat) (type : String) (e : ProcessError)
  deriving DecidableEq, Repr

namespace RouteFault

/-- The place of the processor among those of the route. -/
def position : RouteFault → Nat
  | .unknownProcessor position _ => position
  | .construction position _ _ => position

/-- How the fault reads. -/
def message : RouteFault → String
  | .unknownProcessor position type =>
    "processor " ++ toString position ++ ": unknown processor type " ++ type
  | .construction position type e =>
    "processor " ++ toString position ++ " (" ++ type ++ "): constructor failed: " ++ e.message

end RouteFault

namespace Route

/-! ## Building -/

section Building

variable {C : Type} {m : Type → Type} [Monad m]

/-- Builds processors in order up to the first that cannot be built. `construct` is how a
constructor is called, which may have effects; `position` is the place of the first processor. -/
def buildProcessors (construct : C → Params → m (Except ProcessError Processor))
    (registry : Registry C) (position : Nat) :
    List ProcessorConfig → m (Except RouteFault (List Processor))
  | [] => pure (.ok [])
  | given :: rest =>
    match registry.lookup given.type with
    | none => pure (.error (.unknownProcessor position given.type))
    | some constructor => do
      match ← construct constructor given.params with
      | .error e => return .error (.construction position given.type e)
      | .ok processor =>
        match ← buildProcessors construct registry (position + 1) rest with
        | .error fault => return .error fault
        | .ok processors => return .ok (processor :: processors)

/-- Builds the route at a place of the configuration. -/
def buildWith (construct : C → Params → m (Except ProcessError Processor))
    (registry : Registry C) (index : Nat) (config : RouteConfig) :
    m (Except RouteFault Route) := do
  match ← buildProcessors construct registry 0 config.processors with
  | .error fault => return .error fault
  | .ok processors => return .ok ⟨index, config.input, processors, config.output⟩

end Building

/-- Builds the route at a place of the configuration with constructors that have no effects. -/
def build (registry : Registry ProcessorConstructor) (index : Nat) (config : RouteConfig) :
    Except RouteFault Route :=
  Id.run (buildWith (fun constructor params => pure (constructor params)) registry index config)

/-! ## Running -/

/-- Passes a payload through processors up to the first that does not pass it on, and collects the
events by which they tell of it. -/
def runProcessors : List Processor → Payload → Processed × List LogEntry
  | [], p => (.passed p, [])
  | processor :: rest, p =>
    match processor.process p with
    | (.passed p, log) =>
      let (result, later) := runProcessors rest p
      (result, log ++ later)
    | stopped => stopped

/-- Passes a payload through the processors of the route. -/
def run (r : Route) (p : Payload) : Processed × List LogEntry := runProcessors r.processors p

/-- The failure of the route. -/
def error (r : Route) (fault : RoutingFault) : RoutingError := ⟨r.index, r.input, r.output, fault⟩

/-- The types of the processors, in order. -/
def types (r : Route) : List String := r.processors.map Processor.type

/-- The route as messages show it. -/
def describe (r : Route) : String :=
  "Route \x7b index: " ++ toString r.index ++ ", input: " ++ Text.quoted r.input ++
    ", processors: " ++ Text.quotedList r.types ++ ", output: " ++ Text.quoted r.output ++ " \x7d"

end Route

end Switchboard
