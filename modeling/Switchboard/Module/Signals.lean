import Switchboard.Cancellation

/-!
# Runs and their stop signals

Modules that share one tree of tokens. The start of a module is given a context, and its run begins
when it has made a token of its own below the context and has put it in its stop signal. Contexts
are made and cancelled, runs begin and modules are told to stop in any order and by anybody.
-/

namespace Switchboard

/-- A run of a module. -/
structure Signals.Run where
  id : String
  context : Token
  token : Token
  deriving DecidableEq

/-- The stop signals of modules. `contexts` can be given to a module, and `runs` have begun, in
order. -/
structure Signals where
  tokens : Cancellations
  contexts : List Token
  signal : String → StopSignal
  runs : List Signals.Run

namespace Signals

/-- What happens to the modules. -/
inductive Action where
  | derive (context : Token)
  | cancel (context : Token)
  | begin (id : String) (context : Token)
  | stop (id : String)
  deriving DecidableEq

/-- No run has begun, and there is one context. -/
def initial : Signals := ⟨.none, [.root], fun _ => .idle, []⟩

/-- Puts another stop signal in the place of that of a module. -/
def setSignal (s : Signals) (id : String) (signal : StopSignal) : Signals :=
  { s with signal := fun other => if other = id then signal else s.signal other }

/-- Makes a context below another. -/
def derive (s : Signals) (context : Token) : Token × Signals :=
  let (token, tokens) := s.tokens.child context
  (token, { s with tokens, contexts := s.contexts ++ [token] })

/-- Begins a run. The token is made before it is put in the signal; what is cancelled in between is
the context, and the token lies below it already. -/
def begin (s : Signals) (id : String) (context : Token) : Signals :=
  let (token, signal, tokens) := StopSignal.begin s.tokens context
  { s.setSignal id signal with tokens, runs := s.runs ++ [⟨id, context, token⟩] }

/-- Tells a module to stop. -/
def stop (s : Signals) (id : String) : Signals :=
  let (signal, tokens) := (s.signal id).stop s.tokens
  { s.setSignal id signal with tokens }

/-- One step. What is done with a context that there is not changes nothing. -/
def step (s : Signals) : Action → Signals
  | .derive context => if context ∈ s.contexts then (s.derive context).2 else s
  | .cancel context =>
    if context ∈ s.contexts then { s with tokens := s.tokens.cancel context } else s
  | .begin id context => if context ∈ s.contexts then s.begin id context else s
  | .stop id => s.stop id

/-- A run of steps. -/
def run (s : Signals) (actions : List Action) : Signals := actions.foldl step s

/-- The latest run of a module, if one has begun. -/
def latest? (s : Signals) (id : String) : Option Run :=
  (s.runs.filter fun run => run.id = id).getLast?

end Signals

end Switchboard
