import Switchboard.CommandLine.Program
import Switchboard.Router.Session

/-!
# The command line

Reads the file that is asked for, writes what the program has to say and keeps a router running.
-/

namespace Switchboard.CommandLine

/-- Why the system cannot read a file. -/
def fileError : IO.Error → FileError
  | .inappropriateType _ 20 _ => .notDirectory
  | .inappropriateType .. => .isDirectory
  | _ => .notFound

/-- What the file at a path holds. -/
def readFile (path : String) : IO (Except FileError Bytes) := do
  try
    return .ok (← IO.FS.readBinFile path).toList
  catch e => return .error (fileError e)

/-- How long the router waits before it looks at the time again, in milliseconds. -/
def turn : Nat := 10

/-- Keeps a router running and writes the events that a filter lets through. -/
partial def keepRunning (filter : LogFilter) (s : Session) : IO Unit := do
  for entry in s.log do
    if filter.shows entry.level then IO.println entry.line
  (← IO.getStdout).flush
  IO.sleep turn.toUInt32
  keepRunning filter (Session.advance { s with log := [] } turn)

end Switchboard.CommandLine

open Switchboard in
/-- Runs the program. -/
def main (arguments : List String) : IO UInt32 := do
  let environment ← IO.getEnv "CUEBRIDGE_CONFIG"
  match ← CommandLine.run CommandLine.readFile environment arguments with
  | .finish report =>
    IO.print report.output
    IO.eprint report.errors
    return report.exit.toUInt32
  | .route line assembly filter =>
    IO.print line
    CommandLine.keepRunning filter (Session.ofRouter .loopback assembly.router).start
    return 0
