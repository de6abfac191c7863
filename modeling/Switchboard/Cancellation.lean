/-!
# Cancellation

Work is told to end by a token. Tokens form trees: a token that is cancelled takes its children
with it, also those that are made of it later. A token is named by its place in the tree, its own
number first, so that one token lies below another when the name of the other ends its own.

A module keeps the token of its latest run in a stop signal. Stopping the module cancels that token
once; a run that begins later gets a token of its own.
-/

namespace Switchboard

/-- The place of a token in its tree. The path begins with its own number and goes on with that of
the token it was made of, and so on. -/
structure Token where
  path : List Nat
  deriving DecidableEq, Repr

/-- The token of which all others are made. -/
def Token.root : Token := ⟨[]⟩

/-- Which tokens there are and which of them have been cancelled. `cancelled` are those that have
been cancelled by name, and `next` is the number of the next one. -/
structure Cancellations where
  cancelled : List Token
  next : Nat
  deriving DecidableEq, Repr

namespace Cancellations

/-- Nothing is cancelled. -/
def none : Cancellations := ⟨[], 0⟩

/-- Whether a token or one above it has been cancelled. -/
def isCancelled (c : Cancellations) (t : Token) : Bool :=
  c.cancelled.any fun s => s.path.isSuffixOf t.path

/-- Cancels a token. -/
def cancel (c : Cancellations) (t : Token) : Cancellations :=
  { c with cancelled := t :: c.cancelled }

/-- A new token below another. -/
def child (c : Cancellations) (t : Token) : Token × Cancellations :=
  (⟨c.next :: t.path⟩, { c with next := c.next + 1 })

end Cancellations

/-- How a module is told to stop. It holds the token of the latest run until the module is stopped.
-/
structure StopSignal where
  token : Option Token
  deriving DecidableEq, Repr

namespace StopSignal

/-- No run has begun. -/
def idle : StopSignal := ⟨none⟩

/-- A run begins below a context. It has a token of its own, which takes the place of the last. -/
def begin (c : Cancellations) (context : Token) : Token × StopSignal × Cancellations :=
  let (token, c) := c.child context
  (token, ⟨some token⟩, c)

/-- Cancels the latest run, unless that has been done. -/
def stop (s : StopSignal) (c : Cancellations) : StopSignal × Cancellations :=
  match s.token with
  | some token => (⟨none⟩, c.cancel token)
  | none => (s, c)

end StopSignal

end Switchboard
