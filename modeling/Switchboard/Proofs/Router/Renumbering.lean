import Switchboard.Proofs.Router.Dispatch

/-!
# Routes under other numbers

The place of a route in the configuration shows in the failures of the route and nowhere else: a
router whose routes have other places sends every event along the same way, to the same outcome but
for the places in it.
-/

namespace Switchboard

variable {M : Type} {f : Nat → Nat} {output : Outlet M} {modules : Table M} {p : Payload}

/-! ## Other places -/

/-- The route at another place; likewise whatever shows the places of routes. -/
def Route.renumber (f : Nat → Nat) (route : Route) : Route := { route with index := f route.index }

def RoutingError.renumber (f : Nat → Nat) (e : RoutingError) : RoutingError :=
  { e with index := f e.index }

def Outcome.renumber (f : Nat → Nat) (o : Outcome) : Outcome :=
  { o with errors := o.errors.map (RoutingError.renumber f) }

def RouteEnd.renumber (f : Nat → Nat) : RouteEnd → RouteEnd
  | .failed e => .failed (e.renumber f)
  | e => e

def Call.renumber (f : Nat → Nat) (c : Call) : Call :=
  { c with
    waiting := c.waiting.map (Route.renumber f)
    errors := c.errors.map (RoutingError.renumber f) }

def Router.renumber (f : Nat → Nat) (r : Router M) : Router M :=
  { r with routes := r.routes.map (Route.renumber f) }

/-! ## One route -/

theorem Route.send_renumber (f : Nat → Nat) (output : Outlet M) (modules : Table M) (route : Route)
    (p : Payload) :
    ((route.renumber f).send output modules p).1 = (route.send output modules p).1.renumber f ∧
      ((route.renumber f).send output modules p).2.1 = (route.send output modules p).2.1 := by
  have hrun : (route.renumber f).run p = route.run p := rfl
  have houtput : (route.renumber f).output = route.output := rfl
  simp only [send, hrun, houtput]
  cases route.run p with
  | mk result log =>
    cases result with
    | passed q =>
      cases modules.find? route.output with
      | none => exact ⟨rfl, rfl⟩
      | some m =>
        dsimp only
        cases output m q with
        | mk answer m' =>
          cases answer with
          | ok => exact ⟨rfl, rfl⟩
          | error e => exact ⟨rfl, rfl⟩
    | dropped => exact ⟨rfl, rfl⟩
    | failed e => exact ⟨rfl, rfl⟩
    | crashed => exact ⟨rfl, rfl⟩

/-! ## One event -/

namespace Call

theorem step_renumber (f : Nat → Nat) (output : Outlet M) (modules : Table M) (c : Call) :
    ((c.renumber f).step output modules).1 = (c.step output modules).1.renumber f ∧
      ((c.renumber f).step output modules).2.1 = (c.step output modules).2.1 := by
  obtain ⟨p, matched, waiting, errors, crashed⟩ := c
  cases waiting with
  | nil => exact ⟨rfl, rfl⟩
  | cons route rest =>
    obtain ⟨hend, htable⟩ := route.send_renumber f output modules p
    simp only [step, renumber, List.map_cons]
    generalize (route.renumber f).send output modules p = sent' at hend htable ⊢
    generalize route.send output modules p = sent at hend htable ⊢
    obtain ⟨e', table', log'⟩ := sent'
    obtain ⟨e, table, log⟩ := sent
    dsimp only at hend htable
    subst hend htable
    cases e with
    | failed e => exact ⟨by simp [RouteEnd.renumber], rfl⟩
    | crashed => exact ⟨rfl, rfl⟩
    | delivered => exact ⟨rfl, rfl⟩
    | filtered => exact ⟨rfl, rfl⟩

theorem steps_renumber (f : Nat → Nat) (output : Outlet M) (n : Nat) (modules : Table M) (c : Call) :
    ((c.renumber f).steps output n modules).1 = (c.steps output n modules).1.renumber f ∧
      ((c.renumber f).steps output n modules).2.1 = (c.steps output n modules).2.1 := by
  induction n generalizing modules c with
  | zero => exact ⟨rfl, rfl⟩
  | succ n ih =>
    obtain ⟨hcall, htable⟩ := c.step_renumber f output modules
    simp only [steps, hcall, htable]
    exact ih _ _

theorem returned_renumber (f : Nat → Nat) (c : Call) :
    (c.renumber f).returned.1 = c.returned.1.map (Outcome.renumber f) := by
  obtain ⟨p, matched, waiting, errors, crashed⟩ := c
  cases crashed with
  | true => rfl
  | false => rfl

end Call

namespace Router

theorem matching_renumber (f : Nat → Nat) (r : Router M) (source : String) :
    (r.renumber f).matching source = (r.matching source).map (Route.renumber f) := by
  rw [matching, renumber, List.filter_map]
  rfl

theorem call_renumber (f : Nat → Nat) (r : Router M) (source : String) (p : Payload) :
    (r.renumber f).call source p = (r.call source p).renumber f := by
  simp only [call, matching_renumber, Call.renumber, List.isEmpty_map, List.map_nil]

/-- An event comes to the same outcome but for the places, and to the same modules. -/
theorem dispatch_renumber (f : Nat → Nat) (output : Outlet M) (r : Router M) (source : String)
    (p : Payload) :
    ((r.renumber f).dispatch output source p).1 =
        (r.dispatch output source p).1.map (Outcome.renumber f) ∧
      ((r.renumber f).dispatch output source p).2.1 =
        (r.dispatch output source p).2.1.renumber f := by
  have hlength : ((r.call source p).renumber f).waiting.length =
      (r.call source p).waiting.length := List.length_map _
  obtain ⟨hended, htable⟩ := (r.call source p).steps_renumber f output
    (r.call source p).waiting.length r.modules
  have hmodules : (r.renumber f).modules = r.modules := rfl
  simp only [dispatch, call_renumber, hlength, hmodules, hended, htable, Call.returned_renumber]
  exact ⟨trivial, rfl⟩

end Router

/-! ## Deliveries -/

theorem reached_renumber (f : Nat → Nat) (p : Payload) (routes : List Route) :
    reached p (routes.map (Route.renumber f)) = (reached p routes).map (Route.renumber f) :=
  List.takeWhile_map

theorem deliveries_renumber (f : Nat → Nat) (modules : Table M) (p : Payload) (routes : List Route) :
    deliveries modules p (routes.map (Route.renumber f)) = deliveries modules p routes := by
  rw [deliveries, List.filterMap_map]
  rfl

/-! ## Several events -/

/-- What becomes of an event: what the source learns, and what is delivered, in order. -/
structure Handled where
  outcome : Option Outcome
  deliveries : List (String × Payload)

def Handled.renumber (f : Nat → Nat) (h : Handled) : Handled :=
  { h with outcome := h.outcome.map (Outcome.renumber f) }

namespace Router

/-- Handles an event. -/
def handle (output : Outlet M) (r : Router M) (source : String) (p : Payload) :
    Handled × Router M :=
  (⟨(r.dispatch output source p).1, Switchboard.deliveries r.modules p (reached p (r.matching source))⟩,
    (r.dispatch output source p).2.1)

/-- Handles events one after the other. -/
def handleAll (output : Outlet M) (r : Router M) :
    List (String × Payload) → List Handled × Router M
  | [] => ([], r)
  | (source, p) :: rest =>
    let (handled, next) := r.handle output source p
    let (later, final) := handleAll output next rest
    (handled :: later, final)

theorem handle_renumber (f : Nat → Nat) (output : Outlet M) (r : Router M) (source : String)
    (p : Payload) :
    (r.renumber f).handle output source p =
      ((r.handle output source p).1.renumber f, (r.handle output source p).2.renumber f) := by
  obtain ⟨houtcome, hrouter⟩ := r.dispatch_renumber f output source p
  have hmodules : (r.renumber f).modules = r.modules := rfl
  simp only [handle, Handled.renumber, houtcome, hrouter, hmodules, matching_renumber,
    reached_renumber, deliveries_renumber]

/-- **Events come to the same under other numbers**: to the same outcomes but for the places of the
routes, to the same deliveries and to the same modules. -/
theorem handleAll_renumber (f : Nat → Nat) (output : Outlet M) (r : Router M)
    (inputs : List (String × Payload)) :
    (r.renumber f).handleAll output inputs =
      ((r.handleAll output inputs).1.map (Handled.renumber f),
        (r.handleAll output inputs).2.renumber f) := by
  induction inputs generalizing r with
  | nil => rfl
  | cons input rest ih =>
    obtain ⟨source, p⟩ := input
    simp only [handleAll, handle_renumber, ih, List.map_cons]

end Router

end Switchboard
