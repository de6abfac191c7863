import Switchboard.Router.Basic

/-!
# Events in flight

Several events can be on their way at once. Each has a leg for every route that starts at its
source, and each leg goes on by itself: through one processor after the other, each of which is
given what the one before it has made of the payload, and then to the destination. The legs of all
events take their steps in any order. The source learns of its event when all legs have ended. If a
processor ends the task, the other legs of its event are given up. What processors tell of is left
out.
-/

namespace Switchboard

/-- How far an event has come along a route. -/
inductive Progress where
  | underway (rest : List Processor) (p : Payload)
  | ended (e : RouteEnd)

/-- A route that an event takes. -/
structure Leg where
  route : Route
  progress : Progress

/-- An event with all of its legs, in the order of the routes. -/
structure Flight where
  source : String
  payload : Payload
  legs : List Leg

/-- What the event of a number has given to the destination of an id. -/
structure Delivery where
  flight : Nat
  given : String × Payload

/-- What is given, if the event of a number gives it. -/
def Delivery.givenBy? (n : Nat) (d : Delivery) : Option (String × Payload) :=
  if d.flight = n then some d.given else none

/-- Modules, the events that have begun so far and what they have given the modules, in order. -/
structure Traffic (M : Type) where
  modules : Table M
  flights : List Flight
  deliveries : List Delivery

section

variable {M : Type}

/-- The route with other processors. -/
def Route.withProcessors (route : Route) (processors : List Processor) : Route :=
  { route with processors }

namespace Leg

def isEnded (leg : Leg) : Bool :=
  match leg.progress with
  | .ended _ => true
  | .underway _ _ => false

def isCrashed (leg : Leg) : Bool :=
  match leg.progress with
  | .ended .crashed => true
  | _ => false

def error? (leg : Leg) : Option RoutingError :=
  match leg.progress with
  | .ended (.failed e) => some e
  | _ => none

/-- What the next processor passes on, if there is one and it does, and the processors after it. -/
def advance? : List Processor → Payload → Option (List Processor × Payload)
  | [], _ => none
  | processor :: rest, p =>
    match (processor.process p).1 with
    | .passed q => some (rest, q)
    | _ => none

/-- What a destination is given when no processor is left, if there is that destination. -/
def handed? (modules : Table M) (id : String) : List Processor → Payload → Option (String × Payload)
  | [], p => if (modules.find? id).isSome then some (id, p) else none
  | _ :: _, _ => none

/-- One step: past the next processor, or else to the end of the route, be it at a processor that
does not pass the payload on or at the destination. -/
def step (output : Outlet M) (modules : Table M) (leg : Leg) :
    Leg × Option (String × Payload) × Table M :=
  match leg.progress with
  | .ended _ => (leg, none, modules)
  | .underway rest p =>
    match advance? rest p with
    | some (rest, q) => ({ leg with progress := .underway rest q }, none, modules)
    | none =>
      match (leg.route.withProcessors rest).send output modules p with
      | (e, modules', _) =>
        ({ leg with progress := .ended e }, handed? modules leg.route.output rest p, modules')

end Leg

namespace Flight

def crashed (f : Flight) : Bool := f.legs.any Leg.isCrashed

/-- Whether no leg takes another step. -/
def isOver (f : Flight) : Bool := f.crashed || f.legs.all Leg.isEnded

/-- What the source has learned. -/
def outcome? (f : Flight) : Option Outcome :=
  if f.isOver && !f.crashed then some ⟨!f.legs.isEmpty, f.legs.filterMap Leg.error?⟩ else none

/-- The leg at a place takes a step, unless the event is over. -/
def step (output : Outlet M) (modules : Table M) (f : Flight) (k : Nat) :
    Flight × Option (String × Payload) × Table M :=
  if f.isOver then (f, none, modules)
  else
    match f.legs[k]? with
    | none => (f, none, modules)
    | some leg =>
      match leg.step output modules with
      | (leg, given, modules) => ({ f with legs := f.legs.set k leg }, given, modules)

end Flight

/-- An event begins. -/
def Router.flight (r : Router M) (source : String) (p : Payload) : Flight :=
  ⟨source, p, (r.matching source).map fun route => ⟨route, .underway route.processors p⟩⟩

namespace Traffic

/-- What happens to the events in flight. -/
inductive Event where
  | begin (source : String) (p : Payload)
  | step (flight leg : Nat)

/-- The leg that takes a step, if it is one of the event of a number. -/
def Event.legOf? (n : Nat) : Event → Option Nat
  | .begin _ _ => none
  | .step flight leg => if flight = n then some leg else none

/-- The legs that take steps for the event of a number, one for each step. -/
def legsOf (n : Nat) (events : List Event) : List Nat := events.filterMap (Event.legOf? n)

/-- Before any event. -/
def start (r : Router M) : Traffic M := ⟨r.modules, [], []⟩

/-- One step between the routes of a router. One that is not possible changes nothing. -/
def step (output : Outlet M) (r : Router M) (t : Traffic M) : Event → Traffic M
  | .begin source p => { t with flights := t.flights ++ [r.flight source p] }
  | .step n k =>
    match t.flights[n]? with
    | none => t
    | some f =>
      match f.step output t.modules k with
      | (f, given, modules) =>
        ⟨modules, t.flights.set n f, t.deliveries ++ given.toList.map (⟨n, ·⟩)⟩

def run (output : Outlet M) (r : Router M) (t : Traffic M) (events : List Event) : Traffic M :=
  events.foldl (step output r) t

/-- What the event of a number has given, in order. -/
def deliveriesOf (n : Nat) (t : Traffic M) : List (String × Payload) :=
  t.deliveries.filterMap (Delivery.givenBy? n)

end Traffic

namespace Router

/-- What events come to that find the modules as the router has them. -/
def traffic (output : Outlet M) (r : Router M) (events : List Traffic.Event) : Traffic M :=
  Traffic.run output r (Traffic.start r) events

/-- What one event comes to when there is no other and these of its legs take steps. -/
def alone (output : Outlet M) (r : Router M) (source : String) (p : Payload) (legs : List Nat) :
    Traffic M :=
  r.traffic output (.begin source p :: legs.map (.step 0))

end Router

end

end Switchboard
