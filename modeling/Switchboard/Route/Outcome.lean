import Switchboard.Module.Error
import Switchboard.Processor.Basic

/-!
# What becomes of an event

The routes of one event end one by one. Those that fail are reported with their place in the
configuration.
-/

namespace Switchboard

/-- Why a payload could not be handed to a module. -/
inductive OutputError where
  | noModule (id : String)
  | module (e : ModuleError)
  deriving DecidableEq, Repr

/-- How the error reads. -/
def OutputError.message : OutputError → String
  | .noModule id => "no module found for destination id " ++ id
  | .module e => e.message

/-- Where a route failed. -/
inductive RoutingFault where
  | process (e : ProcessError)
  | output (e : OutputError)
  deriving DecidableEq, Repr

/-- How the fault reads. -/
def RoutingFault.message : RoutingFault → String
  | .process e => "process error: " ++ e.message
  | .output e => "output error: " ++ e.message

/-- The failure of a route for an event. -/
structure RoutingError where
  index : Nat
  input : String
  output : String
  fault : RoutingFault
  deriving DecidableEq, Repr

namespace RoutingError

/-- How the error reads. -/
def message (e : RoutingError) : String :=
  "route " ++ toString e.index ++ " (" ++ e.input ++ " -> " ++ e.output ++ "): " ++ e.fault.message

/-- Whether a processor failed. -/
def isProcess (e : RoutingError) : Bool :=
  match e.fault with
  | .process _ => true
  | .output _ => false

/-- Whether the destination failed. -/
def isOutput (e : RoutingError) : Bool :=
  match e.fault with
  | .process _ => false
  | .output _ => true

end RoutingError

/-- What a source learns about its event. -/
structure Outcome where
  matched : Bool
  errors : List RoutingError
  deriving DecidableEq, Repr

namespace Outcome

/-- No route starts at the source. -/
def unmatched : Outcome := ⟨false, []⟩

/-- Whether no route failed. -/
def isOk (o : Outcome) : Bool := o.errors.isEmpty

/-- The events by which a source tells what became of its event. -/
def report (source : String) (o : Outcome) : List LogEntry :=
  (if o.matched then [] else [⟨.debug, "No route for input from " ++ source⟩]) ++
    o.errors.map fun e =>
      ⟨.warn, "Routing input from " ++ source ++ " failed: " ++ e.message⟩

end Outcome

end Switchboard
