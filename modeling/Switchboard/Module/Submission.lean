import Switchboard.Payload

/-!
# Submissions

What a module with connections sends into a router: a payload under the id of the module. It is
remembered which connection the payload has come by.
-/

namespace Switchboard

/-- An event that a module has sent on for one of its connections. -/
structure Submission where
  connection : Nat
  source : String
  payload : Payload

namespace Submission

/-- Those of a connection, in order. -/
def ofConnection (connection : Nat) (all : List Submission) : List Submission :=
  all.filter fun s => s.connection == connection

end Submission

end Switchboard
