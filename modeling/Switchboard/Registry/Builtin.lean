import Switchboard.Module.Basic
import Switchboard.Processor.Builtin

/-!
# The two registries

A program has one registry of modules and one of processors, which share no types. The types that
come with the library are registered modules first, each in its order; a refused registration ends
this, and what has been registered before it stays.
-/

namespace Switchboard

/-- What a program knows how to build. -/
structure Registries where
  modules : Registry ModuleConstructor
  processors : Registry ProcessorConstructor

namespace Registries

/-- Nothing is known. -/
def empty : Registries := ⟨.empty "module", .empty "processor"⟩

/-- Registers types of modules and then types of processors, up to the first that is refused. -/
def registerAll (r : Registries) (modules : List (Registration ModuleConstructor))
    (processors : List (Registration ProcessorConstructor)) : Option String × Registries :=
  match r.modules.registerAll modules with
  | (some fault, registry) => (some (fault.message r.modules.kind), { r with modules := registry })
  | (none, registry) =>
    let (fault, processors) := r.processors.registerAll processors
    (fault.map (·.message r.processors.kind), ⟨registry, processors⟩)

/-- Registers the types for use. The text tells of the first that is refused. -/
def registerBuiltins (r : Registries) : Option String × Registries :=
  r.registerAll Module.builtins Processor.builtins

/-- Registers the types for trying routers. -/
def registerTrials (r : Registries) : Option String × Registries :=
  r.registerAll Module.trials Processor.trials

/-- The types for use. -/
def builtins : Registries := empty.registerBuiltins.2

/-- The types for trying routers. -/
def trials : Registries := empty.registerTrials.2

/-- The types for use and those for trying routers. -/
def all : Registries := builtins.registerTrials.2

end Registries

end Switchboard
