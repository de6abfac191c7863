import Switchboard.Module.Signals
import Switchboard.Router.Supervisor

/-!
# Stopping a router

A router gives every start of its modules a context of its own below its token, and stopping the
router cancels that token. Each start of the router then tells every module to stop, while the tasks
of the modules, those that have only just begun among them, go on as they like.
-/

namespace Switchboard

/-- A start of a router with the contexts that it has made for its modules. -/
structure Shutdown.Launched where
  supervisor : Supervisor
  contexts : List (String × Token)

/-- A router that is started and stopped. -/
structure Shutdown where
  ids : List String
  token : Token
  signals : Signals
  starts : List Shutdown.Launched

namespace Shutdown

/-- What happens to a router. -/
inductive Action where
  | launch
  | stop
  | supervise (n : Nat) (action : Supervisor.Action)
  | stopModule (id : String)
  deriving DecidableEq

/-- A router of modules of these ids that has not been started. -/
def initial (ids : List String) : Shutdown :=
  let (token, signals) := Signals.initial.derive .root
  ⟨ids, token, signals, []⟩

/-- Whether the router has been stopped. -/
def isStopped (s : Shutdown) : Bool := s.signals.tokens.isCancelled s.token

/-- Makes contexts for modules below a token, one after the other. -/
def contextsBelow (token : Token) (signals : Signals) :
    List String → List (String × Token) × Signals
  | [] => ([], signals)
  | id :: rest =>
    let (context, signals) := signals.derive token
    let (contexts, signals) := contextsBelow token signals rest
    ((id, context) :: contexts, signals)

/-- Starts the router. All contexts are made before the first task begins; one that was made later
would lie below the token of the router just the same. -/
def launch (s : Shutdown) : Shutdown :=
  let (contexts, signals) := contextsBelow s.token s.signals s.ids
  { s with signals, starts := s.starts ++ [⟨.launch s.ids s.isStopped, contexts⟩] }

/-- Stops the router, which all its starts can notice from then on. -/
def stop (s : Shutdown) : Shutdown :=
  { s with
    signals := s.signals.step (.cancel s.token)
    starts := s.starts.map fun start =>
      { start with supervisor := (start.supervisor.step .stop).1 } }

/-- What a step of a start does to the modules: a module begins its run or is told to stop. -/
def heed (contexts : List (String × Token)) (signals : Signals) : Supervisor.Effect → Signals
  | .started id =>
    match contexts.lookup id with
    | some context => signals.step (.begin id context)
    | none => signals
  | .toldToStop id => signals.step (.stop id)
  | .stopping | .reported _ _ | .returned => signals

/-- A start takes a step. -/
def supervise (s : Shutdown) (n : Nat) (action : Supervisor.Action) : Shutdown :=
  match s.starts[n]? with
  | some start =>
    let (supervisor, effects) := start.supervisor.step action
    { s with
      signals := effects.foldl (heed start.contexts) s.signals
      starts := s.starts.set n { start with supervisor } }
  | none => s

/-- One step. A router is not stopped at one of its starts alone, so that this changes nothing. -/
def step (s : Shutdown) : Action → Shutdown
  | .launch => s.launch
  | .stop => s.stop
  | .supervise n action => if action = .stop then s else s.supervise n action
  | .stopModule id => { s with signals := s.signals.step (.stop id) }

/-- A run of steps. -/
def run (s : Shutdown) (actions : List Action) : Shutdown := actions.foldl step s

/-- Whether a start has gone through the modules of the router. -/
def Launched.hasToldAll (start : Launched) : Bool :=
  match start.supervisor.phase with
  | .running | .stopping _ => false
  | .draining | .returned => true

end Shutdown

end Switchboard
