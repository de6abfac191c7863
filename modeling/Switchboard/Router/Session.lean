import Switchboard.Router.Assembly
import Switchboard.Router.Supervisor

/-!
# Sessions

A router with its modules over time. Time passes only when it is told to, and after everything that
happens all that can go on goes on until it has to wait. Modules take their turns in the order of
their ids.
-/

namespace Switchboard

namespace Session

/-- The start of a module that goes on. It belongs to a start of the router, and began at a time in
milliseconds. -/
structure Running where
  start : Nat
  id : String
  token : Token
  begun : Nat
  ticks : Nat

end Session

/-- A router over time. The first of the tokens is that of the router, and times are in
milliseconds. -/
structure Session where
  network : Network
  router : Router Module
  tokens : Cancellations
  now : Nat
  starts : List Supervisor
  running : List Session.Running
  log : List LogEntry

namespace Session

/-- A router that has not been started. -/
def ofRouter (network : Network) (router : Router Module) : Session :=
  ⟨network, router, .none, 0, [], [], []⟩

/-- Tells of more. -/
def tell (s : Session) (entries : List LogEntry) : Session := { s with log := s.log ++ entries }

/-- Whether the router has been stopped. -/
def isStopped (s : Session) : Bool := s.tokens.isCancelled .root

/-- Whether the latest start of the router has not returned. -/
def isRunning (s : Session) : Bool :=
  match s.starts.getLast? with
  | some supervisor => supervisor.phase != .returned
  | none => false

/-- Puts another state in the place of that of a module. -/
def setModule (s : Session) (id : String) (m : Module) : Session :=
  { s with router := { s.router with modules := s.router.modules.insert id m } }

/-! ## Events -/

/-- Sends an event of a source along its routes. -/
def input (s : Session) (source : String) (p : Payload) : Option Outcome × Session :=
  let (outcome, router, log) := s.router.dispatch (Module.output s.network) source p
  (outcome, { s with router }.tell log)

/-- Gives the module of an id a payload. -/
def deliver (s : Session) (id : String) (p : Payload) :
    Option (Except ModuleError Unit) × Session :=
  let (answer, router) := s.router.deliver (Module.output s.network) id p
  (answer, { s with router })

/-! ## Supervision -/

/-- The event by which a session tells of an effect. Why a task has been broken off is left to what
runs it. -/
def entry? : Supervisor.Effect → Option LogEntry
  | .reported _ (.aborted _) => some ⟨.error, "Module task aborted"⟩
  | effect => effect.entry?

/-- A start of the router takes steps of its own. -/
def supervise (s : Session) (n : Nat) (actions : List Supervisor.Action) : Session :=
  match s.starts[n]? with
  | some supervisor =>
    let (supervisor, effects) := supervisor.run actions
    { s with starts := s.starts.set n supervisor }.tell (effects.filterMap entry?)
  | none => s

/-- Tells the module of an id to stop, if there is one. -/
def stopModule (s : Session) (id : String) : Session :=
  match s.router.module? id with
  | some m =>
    let (m, tokens) := m.stop s.tokens
    { s with tokens }.setModule id m
  | none => s

/-- A start of the router that has been stopped tells every module. -/
def stopModules (s : Session) (n : Nat) : Session :=
  match s.starts[n]? with
  | some supervisor =>
    if supervisor.phase = .running ∧ s.isStopped then
      let s := s.router.moduleIds.foldl stopModule s
      s.supervise n (.stop :: supervisor.stopActions)
    else s
  | none => s

/-- The event by which a module tells that its start has ended. -/
def farewell (r : Running) : Module → List LogEntry
  | .interval m => [m.stopped r.ticks]
  | _ => []

/-- A start of a module whose token has been cancelled ends; another goes on. -/
def settleTask (s : Session) (r : Running) : Session :=
  if s.tokens.isCancelled r.token then
    let s := match s.router.module? r.id with
      | some m => (s.setModule r.id m.finish).tell (farewell r m)
      | none => s
    s.supervise r.start [.exit r.id .returned]
  else { s with running := s.running ++ [r] }

/-- Lets everything go on until it has to wait. -/
def settle (s : Session) : Session :=
  let starts := List.range s.starts.length
  let s := starts.foldl stopModules s
  let s := s.running.foldl settleTask { s with running := [] }
  starts.foldl (fun s n =>
    match s.starts[n]? with
    | some supervisor => s.supervise n supervisor.reportActions
    | none => s) s

/-! ## Starting and stopping -/

/-- A mock sends its texts one after the other, and remembers what became of them. When one of them
breaks its task off, the rest is not sent. -/
def emitAll (s : Session) (id : String) : List String → Bool × Session
  | [] => (true, s)
  | text :: rest =>
    match s.input id (.text text) with
    | (some outcome, s) =>
      let s := match s.router.module? id with
        | some (.mock m) => s.setModule id (.mock { m with outcomes := m.outcomes ++ [outcome] })
        | _ => s
      s.emitAll id rest
    | (none, s) => (false, s)

/-- What a module does at once when it has been started: a mock sends its texts and an interval
tells of itself. The answer is whether its task goes on. -/
def greet (s : Session) : Module → Bool × Session
  | .mock m => s.emitAll m.id m.emit
  | .interval m => (true, s.tell [m.started])
  | _ => (true, s)

/-- The task of a module begins, as part of a start of the router. -/
def beginTask (n : Nat) (s : Session) (id : String) : Session :=
  match s.router.module? id with
  | none => s
  | some m =>
    let (context, tokens) := s.tokens.child .root
    let taken := Module.takenBy (s.router.modules.map Prod.snd)
    let (begun, m, tokens) := m.start s.network taken context tokens
    let s := ({ s with tokens }.setModule id m).supervise n [.begin id]
    match begun with
    | .failed e => s.supervise n [.exit id (.failed e)]
    | .running token =>
      match s.greet m with
      | (true, s) => { s with running := s.running ++ [⟨n, id, token, s.now, 0⟩] }
      | (false, s) => s.supervise n [.exit id (.aborted "")]

/-- Starts the router. -/
def start (s : Session) : Session :=
  let ids := s.router.moduleIds
  let n := s.starts.length
  let s := { s with starts := s.starts ++ [Supervisor.launch ids s.isStopped] }
  let s := s.tell [⟨.info, "Router started with " ++ toString s.router.moduleCount ++
    " modules and " ++ toString s.router.routeCount ++ " routes"⟩]
  (ids.foldl (beginTask n) s).settle

/-- Stops the router. -/
def stop (s : Session) : Session := { s with tokens := s.tokens.cancel .root }.settle

/-- Tells one module to stop. -/
def stopOne (s : Session) (id : String) : Session := (s.stopModule id).settle

/-! ## Time -/

/-- When a start of a module ticks next, if it is that of an interval. -/
def nextTick (s : Session) (r : Running) : Option Nat :=
  match s.router.module? r.id with
  | some (.interval m) => some (r.begun + (r.ticks + 1) * m.period.milliseconds)
  | _ => none

/-- The place of the start of a module that ticks first, and when it does. Of several at one time
the first is taken. -/
def firstTick (s : Session) : Option (Nat × Nat) :=
  s.running.zipIdx.foldl (fun best (r, k) =>
    match s.nextTick r, best with
    | some due, some (_, least) => if due < least then some (k, due) else best
    | some due, none => some (k, due)
    | none, _ => best) none

/-- An interval sends its next number. -/
def tick (s : Session) (k : Nat) (due : Nat) : Session :=
  match s.running[k]? with
  | none => s
  | some r =>
    let r := { r with ticks := r.ticks + 1 }
    match { s with now := due }.input r.id (.int (Int64.ofNat r.ticks)) with
    | (some outcome, s) =>
      { s with running := s.running.set k r }.tell (outcome.report r.id)
    | (none, s) =>
      ({ s with running := s.running.eraseIdx k }.supervise r.start [.exit r.id (.aborted "")]).settle

/-- Ticks until a time, at most so often. -/
def tickUntil (limit : Nat) : Nat → Session → Session
  | 0, s => s
  | n + 1, s =>
    match s.firstTick with
    | some (k, due) => if due ≤ limit then tickUntil limit n (s.tick k due) else s
    | none => s

/-- How often the intervals tick in a length of time, at most. -/
def mostTicks (s : Session) (milliseconds : Nat) : Nat :=
  s.running.foldl (fun n r =>
    match s.router.module? r.id with
    | some (.interval m) => n + (milliseconds / m.period.milliseconds + 1)
    | _ => n) 0

/-- Lets time pass. -/
def advance (s : Session) (milliseconds : Nat) : Session :=
  let after := s.now + milliseconds
  { tickUntil after (s.mostTicks milliseconds) s with now := after }

/-! ## Watching -/

/-- The mocks of the router, in the order of their ids. -/
def mocks (s : Session) : List (String × Mock) :=
  s.router.modules.filterMap fun
    | (id, .mock m) => some (id, m)
    | _ => none

/-- The mock of an id as it was before, if it was there. -/
def mock? (s : Session) (id : String) : Option Mock :=
  match s.router.module? id with
  | some (.mock m) => some m
  | _ => none

/-- The payloads that mocks have been given since an earlier time, by their ids. -/
def newOutputs (before after : Session) : List (String × List Payload) :=
  after.mocks.filterMap fun (id, m) =>
    match m.outputs.drop ((before.mock? id).elim 0 (·.outputs.length)) with
    | [] => none
    | payloads => some (id, payloads)

/-- What has become of the texts that a mock has sent since an earlier time. -/
def newOutcomes (before : Session) (id : String) (m : Mock) : List Outcome :=
  m.outcomes.drop ((before.mock? id).elim 0 (·.outcomes.length))

/-- The events since an earlier time. -/
def newLog (before after : Session) : List LogEntry := after.log.drop before.log.length

end Session

end Switchboard
