import Switchboard.Module.Basic

/-!
# Modules by themselves

A module that is started without a router, below a context of its own. The starts of one module
follow one another; a start that cannot go on returns at once.
-/

namespace Switchboard

/-- A module with a context. -/
structure Solo where
  network : Network
  taken : Module.Taken
  module : Module
  tokens : Cancellations
  context : Token
  running : Option Token

namespace Solo

/-- A module that has not been started. -/
def ofModule (network : Network) (taken : Module.Taken) (m : Module) : Solo :=
  let (context, tokens) := Cancellations.none.child .root
  ⟨network, taken, m, tokens, context, none⟩

/-- Whether the context has been cancelled. -/
def isCancelled (s : Solo) : Bool := s.tokens.isCancelled s.context

/-- The context as messages show it. -/
def describeContext (s : Solo) : String :=
  "ModuleContext \x7b cancelled: " ++ (if s.isCancelled then "true" else "false") ++ " \x7d"

/-- Lets the start go on: it returns if it has been cancelled. -/
def settle (s : Solo) : Option (Except ModuleError Unit) × Solo :=
  match s.running with
  | some token =>
    if s.tokens.isCancelled token then
      (some (.ok ()), { s with module := s.module.finish, running := none })
    else (none, s)
  | none => (none, s)

/-- Starts the module. The answer is what the start has returned, if it has. -/
def start (s : Solo) : Option (Except ModuleError Unit) × Solo :=
  let own := Module.takenBy [s.module]
  let taken := ⟨own.streams ++ s.taken.streams, own.datagrams ++ s.taken.datagrams⟩
  match s.module.start s.network taken s.context s.tokens with
  | (.failed e, m, tokens) => (some (.error e), { s with module := m, tokens })
  | (.running token, m, tokens) =>
    { s with module := m, tokens, running := some token }.settle

/-- Tells the module to stop. -/
def stop (s : Solo) : Option (Except ModuleError Unit) × Solo :=
  let (m, tokens) := s.module.stop s.tokens
  { s with module := m, tokens }.settle

/-- Cancels the context. -/
def cancel (s : Solo) : Option (Except ModuleError Unit) × Solo :=
  { s with tokens := s.tokens.cancel s.context }.settle

/-- Gives the module a payload. -/
def output (s : Solo) (p : Payload) : Except ModuleError Unit × Solo :=
  let (answer, m) := s.module.output s.network p
  (answer, { s with module := m })

end Solo

end Switchboard
