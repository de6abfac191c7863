import Mathlib.Data.List.TakeWhile
import Switchboard.Module.Basic
import Switchboard.Proofs.Router.Construction

/-!
# What becomes of an event

An event goes along every route that starts at its source, and each of them gets the payload that
the source has sent. Provided that a destination answers a payload alike whatever it has been given
before, the end of a route is a matter of that route and the payload alone, so that the failures and
the deliveries of a list of routes are those of its routes, one after the other.
-/

namespace Switchboard

section

variable {M : Type}

/-! ## Destinations -/

namespace Outlet

/-- A module that has been given payloads, one after the other. -/
def after (output : Outlet M) (m : M) (given : List Payload) : M :=
  given.foldl (fun m p => (output m p).2) m

/-- The answer of a module to a payload does not depend on what it has been given before. -/
def Steady (output : Outlet M) (m : M) : Prop :=
  ∀ given p, (output (after output m given) p).1 = (output m p).1

/-- A module whose answers are those of every module that it can become is steady. -/
theorem steady_of_invariant {output : Outlet M} {m : M} {I : M → Prop} (hm : I m)
    (hstep : ∀ m', I m' → ∀ p, I (output m' p).2 ∧ (output m' p).1 = (output m p).1) :
    Steady output m := by
  intro given p
  have hafter : ∀ m', I m' → I (after output m' given) := by
    intro m' hm'
    induction given generalizing m' with
    | nil => exact hm'
    | cons q rest ih => exact ih _ (hstep m' hm' q).1
  exact (hstep _ (hafter m hm) p).2

end Outlet

namespace Module

theorem output_of_atRest (network : Network) {m : Module} (h : m.AtRest) (p : Payload) :
    (output network m p).2 = m ∨ ∃ mock, m = .mock mock := by
  cases m with
  | tcpClient m =>
    left
    simp only [AtRest] at h
    simp [output, answered, TcpClient.output, TcpClient.begin, TcpClient.current?, h]
  | tcpServer m =>
    left
    simp only [AtRest] at h
    simp [output, answered, TcpServer.output, TcpServer.messageOf, h]
  | udpServer m => exact .inl rfl
  | udpClient m =>
    left
    simp only [AtRest] at h
    simp [output, answered, UdpClient.output, h]
  | interval m => exact .inl rfl
  | mock m => exact .inr ⟨m, rfl⟩

/-- A module that has not been started is steady, and so is a mock at any time. -/
theorem steady_of_atRest (network : Network) {m : Module} (h : m.AtRest) :
    Outlet.Steady (output network) m := by
  by_cases hmock : ∃ mock, m = .mock mock
  · -- What a mock remembers grows, and whether it refuses payloads does not change.
    obtain ⟨mock, rfl⟩ := hmock
    refine Outlet.steady_of_invariant
      (I := fun m => ∃ k, m = .mock k ∧ k.failOutput = mock.failOutput) ⟨mock, rfl, rfl⟩ ?_
    rintro _ ⟨k, rfl, hfail⟩ p
    simp only [output, answered, Mock.output, hfail]
    split
    · exact ⟨⟨k, rfl, hfail⟩, rfl⟩
    · exact ⟨⟨_, rfl, rfl⟩, rfl⟩
  · refine Outlet.steady_of_invariant (I := fun m' => m' = m) rfl ?_
    rintro _ rfl p
    exact ⟨(output_of_atRest network h p).resolve_right hmock, rfl⟩

end Module

/-! ## The end of one route -/

namespace Route

/-- Whether a processor of the route ends the task that runs it. -/
def crashes (p : Payload) (route : Route) : Bool :=
  match (route.run p).1 with
  | .crashed => true
  | _ => false

/-- Why the route fails, if it does. -/
def fault? (output : Outlet M) (modules : Table M) (p : Payload) (route : Route) :
    Option RoutingFault :=
  match (route.run p).1 with
  | .failed e => some (.process e)
  | .passed q =>
    match modules.find? route.output with
    | none => some (.output (.noModule route.output))
    | some m =>
      match (output m q).1 with
      | .ok () => none
      | .error e => some (.output (.module e))
  | _ => none

/-- The failure of the route, if it fails. -/
def failure? (output : Outlet M) (modules : Table M) (p : Payload) (route : Route) :
    Option RoutingError :=
  (route.fault? output modules p).map route.error

/-- The destination that the route gives a payload, and what it gives it. -/
def delivery? (modules : Table M) (p : Payload) (route : Route) : Option (String × Payload) :=
  match (route.run p).1 with
  | .passed q => if (modules.find? route.output).isSome then some (route.output, q) else none
  | _ => none

end Route

/-- The payloads among some deliveries that go to a module. -/
def sentTo (id : String) (deliveries : List (String × Payload)) : List Payload :=
  deliveries.filterMap fun d => if d.1 = id then some d.2 else none

theorem sentTo_append (id : String) (ds later : List (String × Payload)) :
    sentTo id (ds ++ later) = sentTo id ds ++ sentTo id later :=
  List.filterMap_append

/-- The modules are those of a table that have been given the payloads of some deliveries. -/
def Given (output : Outlet M) (modules now : Table M) (ds : List (String × Payload)) : Prop :=
  ∀ id, now.find? id = (modules.find? id).map fun m => Outlet.after output m (sentTo id ds)

variable {output : Outlet M} {modules now : Table M} {ds : List (String × Payload)} {p : Payload}
variable {route : Route}

theorem given_nil (output : Outlet M) (modules : Table M) : Given output modules modules [] := by
  intro id
  cases modules.find? id with
  | none => rfl
  | some m => rfl

/-- One more payload for one module. -/
theorem Given.insert (h : Given output modules now ds) {id : String} {m : M}
    (hm : modules.find? id = some m) (q : Payload) :
    Given output modules
      (now.insert id (output (Outlet.after output m (sentTo id ds)) q).2) (ds ++ [(id, q)]) := by
  intro other
  rw [Table.find?_insert, sentTo_append]
  by_cases hid : id = other
  · subst hid
    rw [if_pos rfl, hm]
    simp [sentTo, Outlet.after]
  · rw [if_neg hid, h other]
    simp [sentTo, hid]

/-- One route keeps the modules as the deliveries say, and ends as the modules say as they were. -/
theorem Route.send_spec
    (hsteady : ∀ m, modules.find? route.output = some m → Outlet.Steady output m)
    (h : Given output modules now ds) :
    Given output modules (route.send output now p).2.1
        (ds ++ (route.delivery? modules p).toList) ∧
      match (route.send output now p).1 with
      | .failed e => route.failure? output modules p = some e ∧ route.crashes p = false
      | .crashed => route.delivery? modules p = none ∧ route.crashes p = true
      | .delivered | .filtered =>
        route.failure? output modules p = none ∧ route.crashes p = false := by
  obtain ⟨⟨result, log⟩, hrun⟩ : ∃ result, route.run p = result := ⟨_, rfl⟩
  cases result with
  | passed q =>
    have hnow := h route.output
    cases hfind : modules.find? route.output with
    | none =>
      rw [hfind, Option.map_none] at hnow
      simp only [send, delivery?, failure?, fault?, crashes, hrun, hnow, hfind]
      refine ⟨?_, rfl, trivial⟩
      rw [Option.isSome_none, if_neg Bool.false_ne_true, Option.toList_none, List.append_nil]
      exact h
    | some m =>
      have hgiven := h.insert hfind q
      have hanswer := hsteady m hfind (sentTo route.output ds) q
      rw [hfind, Option.map_some] at hnow
      simp only [send, delivery?, failure?, fault?, crashes, hrun, hnow, hfind, ← hanswer]
      rw [Option.isSome_some, if_pos rfl, Option.toList_some]
      obtain ⟨⟨answer, m'⟩, hout⟩ : ∃ result,
        output (Outlet.after output m (sentTo route.output ds)) q = result := ⟨_, rfl⟩
      rw [hout] at hgiven
      rw [hout]
      cases answer with
      | ok => exact ⟨hgiven, rfl, trivial⟩
      | error e => exact ⟨hgiven, rfl, trivial⟩
  | dropped | failed =>
    simp only [send, delivery?, failure?, fault?, crashes, hrun]
    refine ⟨?_, rfl, trivial⟩
    rw [Option.toList_none, List.append_nil]
    exact h
  | crashed =>
    simp only [send, delivery?, crashes, hrun]
    refine ⟨?_, trivial, trivial⟩
    rw [Option.toList_none, List.append_nil]
    exact h

/-! ## Several routes -/

/-- The routes that are taken: those before the first of which a processor ends the task. -/
def reached (p : Payload) (routes : List Route) : List Route :=
  routes.takeWhile fun route => !route.crashes p

/-- The failures of routes, in order. -/
def failures (output : Outlet M) (modules : Table M) (p : Payload) (routes : List Route) :
    List RoutingError :=
  routes.filterMap (Route.failure? output modules p)

/-- The deliveries of routes, in order. -/
def deliveries (modules : Table M) (p : Payload) (routes : List Route) : List (String × Payload) :=
  routes.filterMap (Route.delivery? modules p)

theorem reached_cons_of_crashes {routes : List Route} (h : route.crashes p = true) :
    reached p (route :: routes) = [] := by
  simp [reached, h]

theorem reached_cons_of_not_crashes {routes : List Route} (h : route.crashes p = false) :
    reached p (route :: routes) = route :: reached p routes := by
  simp [reached, h]

theorem failures_cons (routes : List Route) :
    failures output modules p (route :: routes) =
      (route.failure? output modules p).toList ++ failures output modules p routes := by
  rw [failures, List.filterMap_cons]
  cases route.failure? output modules p <;> rfl

theorem deliveries_cons (routes : List Route) :
    deliveries modules p (route :: routes) =
      (route.delivery? modules p).toList ++ deliveries modules p routes := by
  rw [deliveries, List.filterMap_cons]
  cases route.delivery? modules p <;> rfl

/-- A call with no route left does nothing more. -/
theorem Call.steps_of_waiting_eq_nil (output : Outlet M) (n : Nat) (modules : Table M) {c : Call}
    (h : c.waiting = []) : c.steps output n modules = (c, modules, []) := by
  induction n with
  | zero => rfl
  | succ n ih =>
    have hstep : c.step output modules = (c, modules, []) := by
      simp only [step, h]
    simp only [steps, hstep, ih]
    rfl

theorem Route.crashed_iff (output : Outlet M) (now : Table M) (route : Route) (p : Payload) :
    (route.send output now p).1 = .crashed ↔ route.crashes p = true := by
  obtain ⟨⟨result, log⟩, hrun⟩ : ∃ result, route.run p = result := ⟨_, rfl⟩
  cases result with
  | passed q =>
    simp only [send, crashes, hrun]
    refine iff_of_false (fun h => ?_) nofun
    split at h
    · nomatch h
    · split at h <;> nomatch h
  | dropped | failed =>
    simp only [send, crashes, hrun]
    exact iff_of_false nofun nofun
  | crashed =>
    simp only [send, crashes, hrun]

/-- A call that takes its routes ends the task when one of them does, whatever the modules
answer. -/
theorem Call.crashed_steps (output : Outlet M) (c : Call) (now : Table M) :
    (c.steps output c.waiting.length now).1.crashed =
      (c.crashed || c.waiting.any (Route.crashes c.payload)) := by
  obtain ⟨p, matched, waiting, errors, crashed⟩ := c
  induction waiting generalizing now errors with
  | nil => exact (Bool.or_false _).symm
  | cons route rest ih =>
    have hcrashed := Route.crashed_iff output now route p
    obtain ⟨⟨ending, now', log⟩, hend⟩ : ∃ result, route.send output now p = result := ⟨_, rfl⟩
    rw [hend] at hcrashed
    cases ending with
    | crashed =>
      simp only [List.length_cons, steps, step, hend]
      rw [steps_of_waiting_eq_nil output _ _ rfl, List.any_cons, hcrashed.1 rfl, Bool.true_or,
        Bool.or_true]
    | delivered | filtered | failed =>
      have hcrashes := Bool.eq_false_iff.2 (mt hcrashed.2 nofun)
      simp only [List.length_cons, steps, step, hend]
      rw [List.any_cons, hcrashes, Bool.false_or]
      exact ih _ _

/-- A call that takes its routes fails and delivers as they do. -/
theorem Call.steps_spec (c : Call)
    (hsteady : ∀ route ∈ c.waiting, ∀ m, modules.find? route.output = some m →
      Outlet.Steady output m)
    (h : Given output modules now ds) :
    let out := c.steps output c.waiting.length now
    out.1.matched = c.matched ∧
      out.1.errors =
        c.errors ++ failures output modules c.payload (reached c.payload c.waiting) ∧
      Given output modules out.2.1
        (ds ++ deliveries modules c.payload (reached c.payload c.waiting)) := by
  obtain ⟨p, matched, waiting, errors, crashed⟩ := c
  induction waiting generalizing now ds errors with
  | nil => simpa [steps, reached, failures, deliveries] using h
  | cons route rest ih =>
    have hsend := Route.send_spec (p := p) (hsteady route List.mem_cons_self) h
    obtain ⟨⟨ending, now', log⟩, hend⟩ : ∃ result, route.send output now p = result := ⟨_, rfl⟩
    rw [hend] at hsend
    obtain ⟨hgiven, hends⟩ := hsend
    have hrest : ∀ route ∈ rest, ∀ m, modules.find? route.output = some m →
        Outlet.Steady output m := fun route hroute => hsteady route (List.mem_cons_of_mem _ hroute)
    cases ending with
    | delivered | filtered =>
      obtain ⟨hfailure, hcrashes⟩ := hends
      obtain ⟨hmatched, herrors, hmodules⟩ := ih hgiven errors hrest
      simp only [List.length_cons, steps, step, hend]
      rw [reached_cons_of_not_crashes hcrashes, failures_cons, hfailure, Option.toList_none,
        List.nil_append, deliveries_cons, ← List.append_assoc]
      exact ⟨hmatched, herrors, hmodules⟩
    | failed e =>
      obtain ⟨hfailure, hcrashes⟩ := hends
      obtain ⟨hmatched, herrors, hmodules⟩ := ih hgiven (errors ++ [e]) hrest
      simp only [List.length_cons, steps, step, hend]
      rw [reached_cons_of_not_crashes hcrashes, failures_cons, hfailure, deliveries_cons,
        ← List.append_assoc, ← List.append_assoc]
      exact ⟨hmatched, herrors, hmodules⟩
    | crashed =>
      obtain ⟨hdelivery, hcrashes⟩ := hends
      rw [hdelivery, Option.toList_none] at hgiven
      simp only [List.length_cons, steps, step, hend]
      rw [steps_of_waiting_eq_nil output _ _ rfl, reached_cons_of_crashes hcrashes]
      refine ⟨rfl, ?_, hgiven⟩
      rw [failures, List.filterMap_nil, List.append_nil]

/-! ## The whole event -/

namespace Route

/-- The faults that a route can have, and when it has them. -/
theorem fault?_eq_some_iff {fault : RoutingFault} :
    route.fault? output modules p = some fault ↔
      (∃ e, (route.run p).1 = .failed e ∧ fault = .process e) ∨
      (∃ q, (route.run p).1 = .passed q ∧ modules.find? route.output = none ∧
        fault = .output (.noModule route.output)) ∨
      ∃ q m e, (route.run p).1 = .passed q ∧ modules.find? route.output = some m ∧
        (output m q).1 = .error e ∧ fault = .output (.module e) := by
  rw [fault?]
  cases (route.run p).1 with
  | passed q =>
    cases hfind : modules.find? route.output with
    | none => simp [eq_comm]
    | some m =>
      cases hanswer : (output m q).1 with
      | ok => simp [hanswer]
      | error e => simp [hanswer, eq_comm]
  | dropped => simp
  | failed e => simp [eq_comm]
  | crashed => simp

/-- What a route delivers, and when it does. -/
theorem delivery?_eq_some_iff {d : String × Payload} :
    route.delivery? modules p = some d ↔
      ∃ q m, (route.run p).1 = .passed q ∧ modules.find? route.output = some m ∧
        d = (route.output, q) := by
  rw [delivery?]
  cases (route.run p).1 with
  | passed q =>
    cases hfind : modules.find? route.output with
    | none => simp
    | some m => simp [eq_comm]
  | dropped => simp
  | failed e => simp
  | crashed => simp

end Route

namespace Router

variable {r : Router M} {source : String}

/-- What the source learns, and what the modules have been given. -/
theorem dispatch_spec
    (hsteady : ∀ route ∈ r.matching source, ∀ m, r.modules.find? route.output = some m →
      Outlet.Steady output m) :
    (r.dispatch output source p).1 =
        (if (r.matching source).any (Route.crashes p) then none
        else some ⟨!(r.matching source).isEmpty,
          failures output r.modules p (reached p (r.matching source))⟩) ∧
      Given output r.modules (r.dispatch output source p).2.1.modules
        (deliveries r.modules p (reached p (r.matching source))) := by
  have hcrashed := Call.crashed_steps output (r.call source p) r.modules
  obtain ⟨hmatched, herrors, hmodules⟩ :=
    Call.steps_spec (r.call source p) hsteady (given_nil output r.modules)
  rw [List.nil_append] at hmodules
  refine ⟨?_, hmodules⟩
  simp only [dispatch, Call.returned, hmatched, hcrashed, herrors]
  rw [call, Bool.false_or, List.nil_append]
  cases (r.matching source).any (Route.crashes p) with
  | false => rfl
  | true => rfl

theorem mem_matching : route ∈ r.matching source ↔ route ∈ r.routes ∧ route.input = source := by
  simp [matching]

theorem reached_of_not_any {routes : List Route} (h : routes.any (Route.crashes p) = false) :
    reached p routes = routes := by
  refine List.takeWhile_eq_self_iff.2 fun route hroute => ?_
  rw [List.any_eq_false] at h
  simpa using h route hroute

theorem reached_append {routes later : List Route} :
    reached p (routes ++ later) =
      if routes.any (Route.crashes p) then reached p routes else routes ++ reached p later := by
  induction routes with
  | nil => rfl
  | cons route rest ih =>
    rw [List.cons_append]
    cases hcrashes : route.crashes p with
    | true =>
      rw [reached_cons_of_crashes hcrashes, reached_cons_of_crashes hcrashes, List.any_cons, hcrashes,
        Bool.true_or, if_pos rfl]
    | false =>
      rw [reached_cons_of_not_crashes hcrashes, reached_cons_of_not_crashes hcrashes, ih,
        List.any_cons, hcrashes, Bool.false_or, List.cons_append]
      split
      · rfl
      · rfl

/-- The source does not learn of its event when a processor of one of its routes ends the task,
whatever the modules answer. -/
theorem dispatch_eq_none_iff :
    (r.dispatch output source p).1 = none ↔
      ∃ route ∈ r.routes, route.input = source ∧ route.crashes p = true := by
  have hcrashed := Call.crashed_steps output (r.call source p) r.modules
  have hany : (r.matching source).any (Route.crashes p) = true ↔
      ∃ route ∈ r.routes, route.input = source ∧ route.crashes p = true := by
    simp only [List.any_eq_true, mem_matching, and_assoc]
  rw [← hany]
  simp only [dispatch, Call.returned, hcrashed]
  rw [call, Bool.false_or]
  cases (r.matching source).any (Route.crashes p) with
  | false => exact iff_of_false nofun nofun
  | true => exact iff_of_true rfl rfl

/-- When the source learns of its event, every route has been taken. -/
theorem dispatch_eq_some
    (hsteady : ∀ route ∈ r.matching source, ∀ m, r.modules.find? route.output = some m →
      Outlet.Steady output m) {o : Outcome} (h : (r.dispatch output source p).1 = some o) :
    o = ⟨!(r.matching source).isEmpty, failures output r.modules p (r.matching source)⟩ := by
  rw [(dispatch_spec hsteady).1] at h
  cases hany : (r.matching source).any (Route.crashes p) with
  | true =>
    rw [hany, if_pos rfl] at h
    nomatch h
  | false =>
    rw [hany, if_neg Bool.false_ne_true, reached_of_not_any hany] at h
    exact (Option.some.inj h).symm

/-- A list of routes does what its parts do, one after the other. -/
theorem dispatch_append {front back : List Route}
    (hsteady : ∀ route ∈ r.matching source, ∀ m, r.modules.find? route.output = some m →
      Outlet.Steady output m) (hroutes : r.routes = front ++ back) :
    ((r.dispatch output source p).1 = do
      let o ← (dispatch output { r with routes := front } source p).1
      let o' ← (dispatch output { r with routes := back } source p).1
      return ⟨o.matched || o'.matched, o.errors ++ o'.errors⟩) ∧
    ((dispatch output { r with routes := front } source p).1.isSome = true →
      deliveries r.modules p (reached p (r.matching source)) =
        deliveries r.modules p (reached p (matching { r with routes := front } source)) ++
          deliveries r.modules p (reached p (matching { r with routes := back } source))) := by
  have hmatching : r.matching source =
      matching { r with routes := front } source ++ matching { r with routes := back } source := by
    rw [matching, hroutes, List.filter_append]
    rfl
  generalize hfront : ({ r with routes := front } : Router M) = r₁ at hmatching ⊢
  generalize hback : ({ r with routes := back } : Router M) = r₂ at hmatching ⊢
  have hmodules₁ : r₁.modules = r.modules := hfront ▸ rfl
  have hmodules₂ : r₂.modules = r.modules := hback ▸ rfl
  have h₁ := (dispatch_spec (r := r₁) (p := p) fun route hroute =>
    hmodules₁ ▸ hsteady route (hmatching ▸ List.mem_append_left _ hroute)).1
  have h₂ := (dispatch_spec (r := r₂) (p := p) fun route hroute =>
    hmodules₂ ▸ hsteady route (hmatching ▸ List.mem_append_right _ hroute)).1
  rw [(dispatch_spec hsteady).1, h₁, h₂, hmatching, List.any_append, reached_append, hmodules₁,
    hmodules₂]
  cases hany₁ : (r₁.matching source).any (Route.crashes p) with
  | true => exact ⟨rfl, nofun⟩
  | false =>
    rw [Bool.false_or, if_neg Bool.false_ne_true, if_neg Bool.false_ne_true,
      reached_of_not_any hany₁]
    refine ⟨?_, fun _ => List.filterMap_append⟩
    cases hany₂ : (r₂.matching source).any (Route.crashes p) with
    | true => rfl
    | false =>
      have hempty : (r₁.matching source ++ r₂.matching source).isEmpty =
          ((r₁.matching source).isEmpty && (r₂.matching source).isEmpty) := by
        cases r₁.matching source <;> rfl
      rw [if_neg Bool.false_ne_true, if_neg Bool.false_ne_true, reached_of_not_any hany₂, failures,
        List.filterMap_append, hempty, Bool.not_and]
      rfl

/-- What becomes of an event of a source. The source learns of its event unless a processor of one
of its routes ends the task. It learns whether some route starts there. It learns of every route
from there that fails, in the order of the routes. A failure carries the place and the ends of its
route, and its fault is that of a processor, that the destination is missing or that of the
destination. The place is that of the entry that the route was built of. Every module has been given
what the routes deliver to it, each payload once and in the order of the routes, and nothing else.
Routes after one of which a processor has ended the task are not taken. A route delivers to its
destination, if there is one, what its processors make of the payload that the source has sent. The
routes stay as they are. A list of routes does what its parts do, one after the other. -/
structure Dispatched (output : Outlet M) (r : Router M) (source : String) (p : Payload) : Prop where
  returns : (r.dispatch output source p).1.isSome = true ↔
    ∀ route ∈ r.routes, route.input = source → route.crashes p = false
  matched : ∀ o, (r.dispatch output source p).1 = some o →
    (o.matched = true ↔ ∃ route ∈ r.routes, route.input = source)
  errors : ∀ o, (r.dispatch output source p).1 = some o →
    o.errors = failures output r.modules p (r.matching source)
  failure : ∀ (route : Route) (e : RoutingError), route.failure? output r.modules p = some e ↔
    e.index = route.index ∧ e.input = route.input ∧ e.output = route.output ∧
      ((∃ fault, (route.run p).1 = .failed fault ∧ e.fault = .process fault) ∨
      (∃ q, (route.run p).1 = .passed q ∧ r.module? route.output = none ∧
        e.fault = .output (.noModule route.output)) ∨
      ∃ q m fault, (route.run p).1 = .passed q ∧ r.module? route.output = some m ∧
        (output m q).1 = .error fault ∧ e.fault = .output (.module fault))
  built : ∀ registries config, r.routes = (Assembly.ofConfig registries config).router.routes →
    r.routes.Pairwise (fun route later => route.index < later.index) ∧
      ∀ route ∈ r.routes, ∃ entry, config.routes[route.index]? = some entry ∧
        route.input = entry.input ∧ route.output = entry.output
  modules : ∀ id, (r.dispatch output source p).2.1.module? id = (r.module? id).map fun m =>
    Outlet.after output m (sentTo id (deliveries r.modules p (reached p (r.matching source))))
  delivery : ∀ (route : Route) (d : String × Payload), route.delivery? r.modules p = some d ↔
    ∃ q m, (route.run p).1 = .passed q ∧ r.module? route.output = some m ∧ d = (route.output, q)
  routes : (r.dispatch output source p).2.1.routes = r.routes
  append : ∀ front back, r.routes = front ++ back →
    ((r.dispatch output source p).1 = do
      let o ← (dispatch output { r with routes := front } source p).1
      let o' ← (dispatch output { r with routes := back } source p).1
      return ⟨o.matched || o'.matched, o.errors ++ o'.errors⟩) ∧
    ((dispatch output { r with routes := front } source p).1.isSome = true →
      deliveries r.modules p (reached p (r.matching source)) =
        deliveries r.modules p (reached p (matching { r with routes := front } source)) ++
          deliveries r.modules p (reached p (matching { r with routes := back } source)))

/-- **What becomes of an event**, of whatever source and along whatever routes, as long as the
destinations answer a payload alike whatever they have been given before. -/
theorem dispatched (output : Outlet M) (r : Router M) (source : String) (p : Payload)
    (hsteady : ∀ route ∈ r.routes, route.input = source →
      ∀ m, r.module? route.output = some m → Outlet.Steady output m) :
    Dispatched output r source p := by
  have hmatching : ∀ route ∈ r.matching source, ∀ m, r.modules.find? route.output = some m →
      Outlet.Steady output m := fun route hroute =>
    hsteady route (mem_matching.1 hroute).1 (mem_matching.1 hroute).2
  obtain ⟨houtcome, hmodules⟩ := dispatch_spec hmatching
  constructor
  case returns =>
    rw [Option.isSome_iff_ne_none, ne_eq, dispatch_eq_none_iff]
    simp only [not_exists, not_and, Bool.not_eq_true]
  case matched =>
    intro o ho
    rw [dispatch_eq_some hmatching ho, Bool.not_eq_true', List.isEmpty_eq_false_iff_exists_mem]
    simp only [mem_matching]
  case errors =>
    intro o ho
    rw [dispatch_eq_some hmatching ho]
  case failure =>
    intro route e
    rw [Route.failure?, Option.map_eq_some_iff]
    constructor
    · rintro ⟨fault, hfault, rfl⟩
      exact ⟨rfl, rfl, rfl, Route.fault?_eq_some_iff.1 hfault⟩
    · obtain ⟨index, input, output, fault⟩ := e
      rintro ⟨rfl, rfl, rfl, hfault⟩
      exact ⟨fault, Route.fault?_eq_some_iff.2 hfault, rfl⟩
  case built =>
    intro registries config hroutes
    obtain ⟨verdict, routeVerdict, hparts⟩ := Assembly.ofConfig_partition registries config
    rw [hroutes]
    refine ⟨hparts.routes.inOrder, fun route hroute => ?_⟩
    obtain ⟨entry, hentry, hinput, houtput, -⟩ := (hparts.routes.retained route).1 hroute
    exact ⟨entry, hentry, hinput, houtput⟩
  case modules => exact hmodules
  case delivery => exact fun route d => Route.delivery?_eq_some_iff
  case routes => rfl
  case append => exact fun front back => dispatch_append hmatching

/-- A router of two mocks, one of which refuses payloads, and an event that goes along routes of
every end: three of six deliver, one of them to the mock that refuses, one drops, one fails and one
leads nowhere. -/
theorem dispatched_every_end :
    let config : Config := {
      modules := [.ofType "sink" "test.mock",
        .withParams (.ofType "refusing" "test.mock") ⟨[("fail_output", .bool true)]⟩]
      routes := [.between "in" "sink", .between "in" "refusing", .between "other" "sink",
        .between "in" "nobody", .withProcessor (.between "in" "sink") (.ofType "test.drop"),
        .withProcessor (.between "in" "sink") (.ofType "test.fail"), .between "in" "sink"] }
    let r := (Assembly.ofConfig .all config).router
    let output := Module.output .isolated
    (∀ route ∈ r.routes, route.input = "in" →
      ∀ m, r.module? route.output = some m → Outlet.Steady output m) ∧
    Dispatched output r "in" (.text "x") ∧
    (r.dispatch output "in" (.text "x")).1 = some ⟨true,
      [⟨1, "in", "refusing", .output (.module (.other "mock output failure"))⟩,
        ⟨3, "in", "nobody", .output (.noModule "nobody")⟩,
        ⟨5, "in", "sink", .process (.other "test processor failure")⟩]⟩ ∧
    sentTo "sink" (deliveries r.modules (.text "x") (r.matching "in")) =
      [.text "x", .text "x"] := by
  intro config r output
  have hsteady : ∀ route ∈ r.routes, route.input = "in" →
      ∀ m, r.module? route.output = some m → Outlet.Steady output m :=
    fun _ _ _ _ hm => Module.steady_of_atRest _ (Assembly.atRest_of_ofConfig_all hm)
  exact ⟨hsteady, dispatched output r "in" (.text "x") hsteady, by decide +kernel, rfl⟩

end Router

end

end Switchboard
