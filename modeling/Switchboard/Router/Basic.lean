import Switchboard.Route.Basic

/-!
# Routers

A router keeps modules by their ids and the routes between them. An event of a source goes along
every route that starts there, in order, and along each from the payload that the source has sent.

An event in flight is a call that takes one route at a time, so that the steps of several calls can
be mixed in any order; dispatching an event takes all the steps of its call at once.
-/

namespace Switchboard

/-- Modules and the routes between them. -/
structure Router (M : Type) where
  modules : Table M
  routes : List Route

/-- How modules take payloads out: the answer, and what becomes of the module. -/
abbrev Outlet (M : Type) := M → Payload → Except ModuleError Unit × M

/-- How a route ends for an event. -/
inductive RouteEnd where
  | delivered
  | filtered
  | failed (e : RoutingError)
  | crashed

section

variable {M : Type}

/-- Sends a payload along a route. -/
def Route.send (output : Outlet M) (modules : Table M) (route : Route) (p : Payload) :
    RouteEnd × Table M × List LogEntry :=
  match route.run p with
  | (.passed p, log) =>
    match modules.find? route.output with
    | none => (.failed (route.error (.output (.noModule route.output))), modules, log)
    | some m =>
      match output m p with
      | (.ok (), m) => (.delivered, modules.insert route.output m, log)
      | (.error e, m) =>
        (.failed (route.error (.output (.module e))), modules.insert route.output m, log)
  | (.dropped, log) =>
    (.filtered, modules,
      log ++ [⟨.debug, "Route " ++ toString route.index ++ " filtered payload"⟩])
  | (.failed e, log) => (.failed (route.error (.process e)), modules, log)
  | (.crashed, log) => (.crashed, modules, log)

/-- An event on its way along its routes. `waiting` are the routes that are still to be taken, and
`crashed` tells whether a processor has ended the call. -/
structure Call where
  payload : Payload
  matched : Bool
  waiting : List Route
  errors : List RoutingError
  crashed : Bool

namespace Call

/-- Takes the next route. -/
def step (output : Outlet M) (modules : Table M) (c : Call) : Call × Table M × List LogEntry :=
  match c.waiting with
  | [] => (c, modules, [])
  | route :: rest =>
    match route.send output modules c.payload with
    | (.failed e, modules, log) =>
      ({ c with waiting := rest, errors := c.errors ++ [e] }, modules, log)
    | (.crashed, modules, log) => ({ c with waiting := [], crashed := true }, modules, log)
    | (_, modules, log) => ({ c with waiting := rest }, modules, log)

/-- Takes so many routes. -/
def steps (output : Outlet M) :
    Nat → Table M → Call → Call × Table M × List LogEntry
  | 0, modules, c => (c, modules, [])
  | n + 1, modules, c =>
    let (c, modules, log) := c.step output modules
    let (c, modules, later) := steps output n modules c
    (c, modules, log ++ later)

/-- What the source learns when the call has taken its routes, and how that is told. A call that
has crashed does not return. -/
def returned (c : Call) : Option Outcome × List LogEntry :=
  if c.crashed then (none, [])
  else (some ⟨c.matched, c.errors⟩,
    c.errors.map fun e => ⟨.debug, "Routing error: " ++ e.message⟩)

end Call

namespace Router

/-- The routes that start at a source. -/
def matching (r : Router M) (source : String) : List Route :=
  r.routes.filter fun route => route.input == source

/-- An event begins. -/
def call (r : Router M) (source : String) (p : Payload) : Call :=
  let routes := r.matching source
  ⟨p, !routes.isEmpty, routes, [], false⟩

/-- Sends an event of a source along its routes. -/
def dispatch (output : Outlet M) (r : Router M) (source : String) (p : Payload) :
    Option Outcome × Router M × List LogEntry :=
  let begun := r.call source p
  let (ended, modules, log) := begun.steps output begun.waiting.length r.modules
  let (outcome, told) := ended.returned
  (outcome, { r with modules }, log ++ told)

/-- The ids of the modules, sorted. -/
def moduleIds (r : Router M) : List String := r.modules.keys

/-- The module of an id. -/
def module? (r : Router M) (id : String) : Option M := r.modules.find? id

/-- The number of modules. -/
def moduleCount (r : Router M) : Nat := r.modules.length

/-- The number of routes. -/
def routeCount (r : Router M) : Nat := r.routes.length

/-- Gives the module of an id a payload, if there is one. -/
def deliver (output : Outlet M) (r : Router M) (id : String) (p : Payload) :
    Option (Except ModuleError Unit) × Router M :=
  match r.modules.find? id with
  | none => (none, r)
  | some m =>
    let (answer, m) := output m p
    (some answer, { r with modules := r.modules.insert id m })

end Router

end

end Switchboard
