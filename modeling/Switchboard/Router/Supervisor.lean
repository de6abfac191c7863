import Switchboard.Module.Error
import Switchboard.Log

/-!
# Supervision

A start of a router runs a task for each module. While the router has not been stopped it reports
the tasks that end; then it tells every module to stop, waits for the tasks that are left, reports
them too and returns. The order in which the tasks begin and end and in which the router is stopped
is not in its hands, so that a start is a state that takes these events as they come.
-/

namespace Switchboard

/-- How the task of a module ends: the start of the module has returned or failed, or the task has been
broken off, for a reason that what runs it gives. -/
inductive Exit where
  | returned
  | failed (e : ModuleError)
  | aborted (reason : String)
  deriving DecidableEq, Repr

/-- The event that tells how the task of a module has ended. -/
def Exit.report (id : String) : Exit → LogEntry
  | .returned => ⟨.debug, "Module " ++ id ++ " exited"⟩
  | .failed e => ⟨.error, "Module " ++ id ++ " failed: " ++ e.message⟩
  | .aborted reason => ⟨.error, "Module task aborted: " ++ reason⟩

namespace Supervisor

/-- How far the task of a module has come. A task that has ended is still to be reported. -/
inductive TaskState where
  | waiting
  | running
  | ended (exit : Exit)
  | reported
  deriving DecidableEq, Repr

/-- The task of a module. -/
structure Task where
  id : String
  state : TaskState
  deriving DecidableEq, Repr

/-- How far a start of a router has come. When it has noticed that it has been stopped it tells the
modules one after the other, waits for the tasks that are left and returns. -/
inductive Phase where
  | running
  | stopping (ids : List String)
  | draining
  | returned
  deriving DecidableEq, Repr

/-- What happens while a router runs. -/
inductive Action where
  | stop
  | begin (id : String)
  | exit (id : String) (exit : Exit)
  | notice
  | stopNext
  | report (id : String)
  | finish
  deriving DecidableEq, Repr

/-- What others see of it. -/
inductive Effect where
  | started (id : String)
  | stopping
  | toldToStop (id : String)
  | reported (id : String) (exit : Exit)
  | returned
  deriving DecidableEq, Repr

/-- The event that tells of an effect. -/
def Effect.entry? : Effect → Option LogEntry
  | .started _ | .toldToStop _ => none
  | .stopping => some ⟨.info, "Router stopping"⟩
  | .reported id exit => some (exit.report id)
  | .returned => some ⟨.info, "Router stopped"⟩

end Supervisor

/-- A start of a router. -/
structure Supervisor where
  cancelled : Bool
  phase : Supervisor.Phase
  tasks : List Supervisor.Task
  deriving DecidableEq, Repr

namespace Supervisor

/-- A start of a router of modules of these ids, which may have been stopped before. -/
def launch (ids : List String) (cancelled : Bool) : Supervisor :=
  ⟨cancelled, .running, ids.map fun id => ⟨id, .waiting⟩⟩

/-- The task of a module. -/
def task? (s : Supervisor) (id : String) : Option Task := s.tasks.find? fun t => t.id == id

/-- Puts another state in the place of that of a task. -/
def setTask (s : Supervisor) (id : String) (state : TaskState) : Supervisor :=
  { s with tasks := s.tasks.map fun t => if t.id = id then { t with state } else t }

/-- Whether the end of every task has been reported. -/
def allReported (s : Supervisor) : Bool := s.tasks.all fun t => t.state == .reported

/-- Whether tasks are being reported: while the router runs and while it waits for the last. -/
def isListening (s : Supervisor) : Bool :=
  match s.phase with
  | .running | .draining => true
  | .stopping _ | .returned => false

/-- One step. A step that is not possible changes nothing and is not seen. -/
def step (s : Supervisor) : Action → Supervisor × List Effect
  | .stop => ({ s with cancelled := true }, [])
  | .begin id =>
    match s.task? id with
    | some ⟨_, .waiting⟩ => (s.setTask id .running, [.started id])
    | _ => (s, [])
  | .exit id exit =>
    match s.task? id with
    | some ⟨_, .running⟩ => (s.setTask id (.ended exit), [])
    | _ => (s, [])
  | .notice =>
    match s.phase, s.cancelled with
    | .running, true => ({ s with phase := .stopping (s.tasks.map Task.id) }, [.stopping])
    | _, _ => (s, [])
  | .stopNext =>
    match s.phase with
    | .stopping (id :: rest) => ({ s with phase := .stopping rest }, [.toldToStop id])
    | .stopping [] => ({ s with phase := .draining }, [])
    | _ => (s, [])
  | .report id =>
    match s.task? id, s.isListening with
    | some ⟨_, .ended exit⟩, true => (s.setTask id .reported, [.reported id exit])
    | _, _ => (s, [])
  | .finish =>
    match s.phase with
    | .draining => if s.allReported then ({ s with phase := .returned }, [.returned]) else (s, [])
    | _ => (s, [])

/-- A run of steps and all that is seen of it, in order. -/
def run (s : Supervisor) : List Action → Supervisor × List Effect
  | [] => (s, [])
  | action :: rest =>
    let (s, effects) := s.step action
    let (s, later) := s.run rest
    (s, effects ++ later)

/-- The steps by which a router that has been stopped tells every module. -/
def stopActions (s : Supervisor) : List Action :=
  .notice :: (s.tasks.map fun _ => .stopNext) ++ [.stopNext]

/-- The steps by which a router reports every task that has ended, and returns if it can. -/
def reportActions (s : Supervisor) : List Action :=
  (s.tasks.map fun t => .report t.id) ++ [.finish]

end Supervisor

end Switchboard
