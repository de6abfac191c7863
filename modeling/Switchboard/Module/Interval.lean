import Switchboard.Cancellation
import Switchboard.Config.Basic
import Switchboard.Duration
import Switchboard.Log
import Switchboard.Module.Error

/-!
# Intervals

A source that counts: at every multiple of its period after its start it sends the next number,
from one on.
-/

namespace Switchboard

/-- A module that ticks. -/
structure Interval where
  id : String
  period : Duration
  signal : StopSignal
  deriving Repr

namespace Interval

/-- The type in configurations. -/
def typeName : String := "time.interval"

/-- Builds the module. A period is not zero. -/
def ofConfig (config : ModuleConfig) : Except ModuleError Interval := do
  let period ← ModuleError.ofParam (config.params.getUint "interval_ms")
  if period = 0 then throw (.param (.invalid "interval_ms" "must be greater than zero"))
  return ⟨config.id, ⟨period.toNat⟩, .idle⟩

/-- An interval takes no payloads. -/
def output (_ : Interval) (_ : Payload) : Except ModuleError Unit :=
  .error (.unsupported (typeName ++ " does not accept output"))

/-- Tells of the start. -/
def started (m : Interval) : LogEntry :=
  ⟨.info, "Interval " ++ m.id ++ " ticking every " ++ m.period.describe⟩

/-- Tells of the end after some ticks. -/
def stopped (m : Interval) (ticks : Nat) : LogEntry :=
  ⟨.info, "Interval " ++ m.id ++ " stopped after " ++ toString ticks ++ " ticks"⟩

/-! ## Service -/

/-- How far a start has come. While it ticks, so many numbers have been sent. -/
inductive Phase where
  | idle
  | ticking (token : Token) (ticks : Nat)
  deriving DecidableEq, Repr

/-- What happens to an interval. -/
inductive Action where
  | start (context : Token)
  | tick
  | leave
  | stop
  | cancel (token : Token)
  deriving DecidableEq, Repr

/-- An interval in service. -/
structure Service where
  module : Interval
  phase : Phase
  tokens : Cancellations
  submitted : List Nat
  returns : List (Except ModuleError Unit)

namespace Service

/-- An interval that has not been started. -/
def initial (m : Interval) : Service := ⟨m, .idle, .none, [], []⟩

/-- One step. A step that is not possible changes nothing. -/
def step (s : Service) : Action → Service
  | .start context =>
    match s.phase with
    | .idle =>
      let (token, signal, tokens) := StopSignal.begin s.tokens context
      { s with module := { s.module with signal }, phase := .ticking token 0, tokens }
    | _ => s
  | .tick =>
    match s.phase with
    | .ticking token ticks =>
      { s with phase := .ticking token (ticks + 1), submitted := s.submitted ++ [ticks + 1] }
    | .idle => s
  | .leave =>
    match s.phase with
    | .ticking token _ =>
      if s.tokens.isCancelled token then
        { s with phase := .idle, returns := s.returns ++ [.ok ()] }
      else s
    | .idle => s
  | .stop =>
    let (signal, tokens) := s.module.signal.stop s.tokens
    { s with module := { s.module with signal }, tokens }
  | .cancel token => { s with tokens := s.tokens.cancel token }

/-- A run of steps. -/
def run (s : Service) (actions : List Action) : Service := actions.foldl step s

end Service

end Interval

end Switchboard
