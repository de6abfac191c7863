import Switchboard.Registry.Builtin

/-!
# Calls to the registries

A program uses its two registries by calls. A registration that is refused ends the call with the
text of the refusal, and the program may go on calling.
-/

namespace Switchboard

namespace Registry

/-- What a registry is asked. -/
inductive Request (C : Type) where
  | register (given : Registration C)
  | lookup (type : String)
  | contains (type : String)
  | types
  | size
  | isEmpty

/-- What comes of a request. -/
inductive Answer (C : Type) where
  | taken
  | refused (message : String)
  | constructor (found : Option C)
  | truth (b : Bool)
  | names (types : List String)
  | number (n : Nat)

variable {C : Type}

/-- The answer to a request and the registry after it. -/
def call (r : Registry C) : Request C → Answer C × Registry C
  | .register given =>
    match r.register given with
    | .ok r' => (.taken, r')
    | .error fault => (.refused (fault.message r.kind), r)
  | .lookup type => (.constructor (r.lookup type), r)
  | .contains type => (.truth (r.contains type), r)
  | .types => (.names r.types, r)
  | .size => (.number r.size, r)
  | .isEmpty => (.truth r.isEmpty, r)

/-- The registry after requests. -/
def run (r : Registry C) (requests : List (Request C)) : Registry C :=
  requests.foldl (fun r request => (r.call request).2) r

end Registry

namespace Registries

/-- A call to one of the registries. -/
inductive Call where
  | modules (request : Registry.Request ModuleConstructor)
  | processors (request : Registry.Request ProcessorConstructor)

/-- What comes of a call. -/
inductive Answer where
  | modules (answer : Registry.Answer ModuleConstructor)
  | processors (answer : Registry.Answer ProcessorConstructor)

/-- The answer to a call and the registries after it. -/
def call (r : Registries) : Call → Answer × Registries
  | .modules request =>
    let (answer, modules) := r.modules.call request
    (.modules answer, { r with modules := modules })
  | .processors request =>
    let (answer, processors) := r.processors.call request
    (.processors answer, { r with processors := processors })

/-- The registries after calls. -/
def run (r : Registries) (calls : List Call) : Registries :=
  calls.foldl (fun r given => (r.call given).2) r

end Registries

end Switchboard
