import Mathlib.Algebra.BigOperators.Fin
import Switchboard.Proofs.Router.InTurn

/-!
# Events in flight do not disturb one another

However the steps of several events are mixed, and whether they return or are torn down by a
processor, each of them comes to what it comes to by itself, and the destinations are given what
the events give, no more and no less.
-/

namespace Switchboard

namespace Traffic

section

variable {M : Type} {output : Outlet M} {r : Router M} {t : Traffic M}

/-! ## Shares -/

/-- The source and the payload of an event that begins. -/
def Event.begun? : Event → Option (String × Payload)
  | .begin source p => some (source, p)
  | .step _ _ => none

theorem map_flights_run (output : Outlet M) (r : Router M) (t : Traffic M) (events : List Event) :
    (t.run output r events).flights.map (fun f => (f.source, f.payload)) =
      t.flights.map (fun f => (f.source, f.payload)) ++ events.filterMap Event.begun? := by
  induction events generalizing t with
  | nil => exact (List.append_nil _).symm
  | cons event events ih =>
    refine (ih (t.step output r event)).trans ?_
    cases event with
    | begin source p =>
      have hbegun : List.filterMap Event.begun? (.begin source p :: events) =
          (source, p) :: events.filterMap Event.begun? := rfl
      rw [step, List.map_append, hbegun, List.append_assoc]
      rfl
    | step n k =>
      have hbegun : List.filterMap Event.begun? (.step n k :: events) =
          events.filterMap Event.begun? := rfl
      rw [hbegun]
      congr 1
      cases hf : t.flights[n]? with
      | none => rw [step_step_of_none hf]
      | some f =>
        rw [step_step hf]
        refine map_set_eq_map hf ?_
        obtain hstep | ⟨leg, -, -, -, hstep⟩ := Flight.step_cases output t.modules f k
        · rw [hstep]
        · rw [hstep]

/-- Deliveries come apart by the events that they are of. -/
theorem coe_sentTo_eq_sum {ds : List Delivery} {count : Nat} (h : ∀ d ∈ ds, d.flight < count)
    (id : String) :
    (sentTo id (ds.map Delivery.given) : Multiset Payload) =
      ∑ n ∈ Finset.range count,
        (sentTo id (ds.filterMap (Delivery.givenBy? n)) : Multiset Payload) := by
  induction ds with
  | nil => exact (Finset.sum_eq_zero fun n _ => rfl).symm
  | cons d ds ih =>
    obtain ⟨hd, hds⟩ := List.forall_mem_cons.1 h
    have hone (n : Nat) :
        (sentTo id ((d :: ds).filterMap (Delivery.givenBy? n)) : Multiset Payload) =
          (if d.flight = n then (sentTo id [d.given] : Multiset Payload) else 0) +
            (sentTo id (ds.filterMap (Delivery.givenBy? n)) : Multiset Payload) := by
      by_cases hn : d.flight = n
      · have hgiven : d.givenBy? n = some d.given := if_pos hn
        rw [List.filterMap_cons_some hgiven, if_pos hn, ← List.singleton_append, sentTo_append,
          Multiset.coe_add]
      · have hgiven : d.givenBy? n = none := if_neg hn
        rw [List.filterMap_cons_none hgiven, if_neg hn, zero_add]
    have hmine : ∑ n ∈ Finset.range count,
        (if d.flight = n then (sentTo id [d.given] : Multiset Payload) else 0) =
          (sentTo id [d.given] : Multiset Payload) := by
      rw [Finset.sum_ite_eq, if_pos (Finset.mem_range.2 hd)]
    rw [Finset.sum_congr rfl fun n _ => hone n, Finset.sum_add_distrib, hmine, ← ih hds,
      Multiset.coe_add, ← sentTo_append]
    rfl

end

end Traffic

/-! ## Any number of events -/

namespace Router

section

variable {M : Type} {output : Outlet M} {r : Router M}

/-- What becomes of events that are in flight at the same time. The events in flight are those that
have begun. Each comes as far and gives the same, in the same order, as by its own steps alone. Each
is over when its legs have taken a step for every processor and one more, whatever the others do.
Its source then learns what it learns when the event is dispatched, and nothing if that does not
return. An event that has returned has given what is delivered when it is dispatched. What a
destination has been given is the sum of what the events have given it, which is the sum of what is
delivered when they are dispatched, if all have returned. Every module is as these payloads have
left it, in the order in which they were given, as it is when one event is dispatched. An event is
dispatched by its own steps alone, in some order. What an event has given that is over comes before
all that an event gives that begins only then. -/
structure Undisturbed (output : Outlet M) (r : Router M) (events : List Traffic.Event) : Prop where
  begun : (r.traffic output events).flights.map (fun f => (f.source, f.payload)) =
    events.filterMap Traffic.Event.begun?
  alone : ∀ front source p back, events = front ++ .begin source p :: back →
    let n := (r.traffic output front).flights.length
    let solo := r.alone output source p (Traffic.legsOf n back)
    ∃ f : Flight, f.source = source ∧ f.payload = p ∧
      (r.traffic output events).flights[n]? = some f ∧ solo.flights = [f] ∧
      (r.traffic output events).deliveriesOf n = solo.deliveriesOf 0
  ends : ∀ front source p back, events = front ++ .begin source p :: back →
    let n := (r.traffic output front).flights.length
    (∀ k route, (r.matching source)[k]? = some route →
      route.processors.length < (Traffic.legsOf n back).count k) →
    ∃ f : Flight, (r.traffic output events).flights[n]? = some f ∧ f.isOver = true
  outcome : ∀ f ∈ (r.traffic output events).flights, f.isOver = true →
    f.outcome? = (r.dispatch output f.source f.payload).1
  delivered : ∀ n f, (r.traffic output events).flights[n]? = some f → f.outcome?.isSome = true →
    ((r.traffic output events).deliveriesOf n).Perm
      (deliveries r.modules f.payload (reached f.payload (r.matching f.source)))
  shares : ∀ id,
    (sentTo id ((r.traffic output events).deliveries.map Delivery.given) : Multiset Payload) =
      ∑ n ∈ Finset.range (r.traffic output events).flights.length,
        (sentTo id ((r.traffic output events).deliveriesOf n) : Multiset Payload)
  total : (∀ f ∈ (r.traffic output events).flights, f.outcome?.isSome = true) → ∀ id,
    (sentTo id ((r.traffic output events).deliveries.map Delivery.given) : Multiset Payload) =
      ((r.traffic output events).flights.map fun f =>
        (sentTo id (deliveries r.modules f.payload (reached f.payload (r.matching f.source))) :
          Multiset Payload)).sum
  modules : ∀ id, (r.traffic output events).modules.find? id = (r.module? id).map fun m =>
    Outlet.after output m (sentTo id ((r.traffic output events).deliveries.map Delivery.given))
  dispatched : ∀ source p id, (r.dispatch output source p).2.1.module? id =
    (r.module? id).map fun m => Outlet.after output m
      (sentTo id (deliveries r.modules p (reached p (r.matching source))))
  inTurn : ∀ source p, ∃ (legs : List Nat) (f : Flight),
    (r.alone output source p legs).flights = [f] ∧ f.isOver = true ∧
      f.outcome? = (r.dispatch output source p).1 ∧
      (r.alone output source p legs).modules = (r.dispatch output source p).2.1.modules
  ordered : ∀ front source p back, events = front ++ .begin source p :: back →
    ∀ i f, (r.traffic output front).flights[i]? = some f → f.isOver = true →
    ∃ before after, (r.traffic output events).deliveries = before ++ after ∧
      (∀ d ∈ after, d.flight ≠ i) ∧
      ∀ d ∈ before, d.flight ≠ (r.traffic output front).flights.length

theorem sound_traffic (hr : r.Steady output) (events : List Traffic.Event) :
    (r.traffic output events).Sound output r :=
  (Traffic.sound_start output r).run hr events

theorem traffic_append (front back : List Traffic.Event) :
    r.traffic output (front ++ back) = (r.traffic output front).run output r back :=
  Traffic.run_append front back

/-- An event that begins is the next one, and has not given anything. -/
theorem traffic_begin (hr : r.Steady output) (front : List Traffic.Event) (source : String)
    (p : Payload) :
    let t := (r.traffic output front).step output r (.begin source p)
    t.flights[(r.traffic output front).flights.length]? = some (r.flight source p) ∧
      t.deliveriesOf (r.traffic output front).flights.length = [] := by
  constructor
  · exact List.getElem?_concat_length
  · exact (sound_traffic hr front).deliveriesOf_eq_nil (Nat.le_refl _)

theorem undisturbed_of_steady (hr : r.Steady output) (events : List Traffic.Event) :
    Undisturbed output r events := by
  have hsound := sound_traffic hr events
  have hsteady (source : String) : ∀ route ∈ r.matching source, ∀ m,
      r.modules.find? route.output = some m → Outlet.Steady output m :=
    fun route hroute => hr route (mem_matching.1 hroute).1
  constructor
  case begun => exact Traffic.map_flights_run output r (Traffic.start r) events
  case alone =>
    rintro front source p back rfl n solo
    obtain ⟨hflight, hnil⟩ := traffic_begin hr front source p
    have hagrees : Traffic.Agrees n ((r.traffic output front).step output r (.begin source p))
        ((Traffic.start r).step output r (.begin source p)) (r.flight source p) :=
      ⟨hflight, rfl, hnil.symm⟩
    obtain ⟨f, hsource, hpayload, hf, hsolo, hgiven⟩ :=
      hagrees.run ((sound_traffic hr front).step hr (.begin source p))
        ((Traffic.sound_start output r).step hr (.begin source p)) hr back
    rw [traffic_append]
    exact ⟨f, hsource, hpayload, hf, hsolo, hgiven.symm⟩
  case ends =>
    rintro front source p back rfl n hcount
    obtain ⟨hflight, -⟩ := traffic_begin hr front source p
    have hwork : ∀ k leg, (r.flight source p).legs[k]? = some leg →
        leg.work ≤ (Traffic.legsOf n back).count k := by
      intro k leg hleg
      rw [flight, List.getElem?_map] at hleg
      obtain ⟨route, hroute, rfl⟩ := Option.map_eq_some_iff.1 hleg
      exact hcount k route hroute
    rw [traffic_append]
    exact Traffic.exists_isOver_run (r := r) (t := Traffic.step _ _ _ _) hflight (.inr hwork)
  case outcome => exact fun f hf hover => (hsound.flights f hf).outcome?_eq hr hover
  case delivered =>
    intro n f hf hreturned
    rw [← (hsound.flight hf).delivered_eq hreturned]
    exact hsound.delivered n f hf
  case shares => exact fun id => Traffic.coe_sentTo_eq_sum hsound.begun id
  case total =>
    intro hreturned id
    rw [Traffic.coe_sentTo_eq_sum hsound.begun, Finset.sum_range, ← Fin.sum_univ_fun_getElem]
    refine Finset.sum_congr rfl fun n _ => Multiset.coe_eq_coe.2 ?_
    have hf := List.getElem?_eq_getElem n.isLt
    have hmem := List.getElem_mem n.isLt
    have hperm := hsound.delivered n _ hf
    rw [(hsound.flight hf).delivered_eq (hreturned _ hmem)] at hperm
    exact hperm.filterMap _
  case modules => exact hsound.given
  case dispatched => exact fun source p => (dispatch_spec (hsteady source)).2
  case inTurn => exact exists_alone_eq_dispatch output r
  case ordered =>
    rintro front source p back rfl i f hf hover
    obtain ⟨after, hafter, hothers⟩ :=
      Traffic.exists_deliveries_run_eq output r hf hover (.begin source p :: back)
    refine ⟨(r.traffic output front).deliveries, after, ?_, hothers, ?_⟩
    · rw [traffic_append]
      exact hafter
    · intro d hd
      exact Nat.ne_of_lt ((sound_traffic hr front).begun d hd)

end

end Router

/-! ## Mock destinations -/

/-- The mock when it has been given payloads. -/
def Mock.taking (m : Mock) (given : List Payload) : Mock :=
  { m with outputs := m.outputs ++ if m.failOutput then [] else given }

theorem Module.after_mock (network : Network) (m : Mock) (given : List Payload) :
    Outlet.after (output network) (.mock m) given = .mock (m.taking given) := by
  induction given generalizing m with
  | nil => simp [Outlet.after, Mock.taking]
  | cons p given ih =>
    refine (ih (m.output p).2).trans ?_
    by_cases hfail : m.failOutput = true
    · simp [Mock.output, Mock.taking, hfail]
    · simp [Mock.output, Mock.taking, hfail]

namespace Router

variable {network : Network} {r : Router Module}

theorem steady_of_mocks (network : Network)
    (hmocks : ∀ route ∈ r.routes, ∀ m, r.module? route.output = some m → ∃ mock, m = .mock mock) :
    r.Steady (Module.output network) := by
  intro route hroute m hm
  obtain ⟨mock, rfl⟩ := hmocks route hroute m hm
  exact Module.steady_of_atRest network trivial

/-- What becomes of events that are in flight at the same time, and of the mocks that they reach. A
mock remembers what the events have given it, in order, unless it refuses payloads, as it remembers
what is delivered when one event is dispatched. -/
structure MocksUndisturbed (network : Network) (r : Router Module) (events : List Traffic.Event) :
    Prop extends Undisturbed (Module.output network) r events where
  remembered : ∀ id mock, r.module? id = some (.mock mock) →
    (r.traffic (Module.output network) events).modules.find? id = some (.mock (mock.taking
      (sentTo id ((r.traffic (Module.output network) events).deliveries.map Delivery.given))))
  rememberedAlone : ∀ source p id mock, r.module? id = some (.mock mock) →
    (r.dispatch (Module.output network) source p).2.1.module? id = some (.mock (mock.taking
      (sentTo id (deliveries r.modules p (reached p (r.matching source))))))

/-- **Events on their way to mocks do not interfere with one another**, however many there are and
however the steps of their legs are mixed. -/
theorem events_undisturbed (network : Network) (r : Router Module)
    (hmocks : ∀ route ∈ r.routes, ∀ m, r.module? route.output = some m → ∃ mock, m = .mock mock)
    (events : List Traffic.Event) : MocksUndisturbed network r events := by
  have hundisturbed := undisturbed_of_steady (steady_of_mocks network hmocks) events
  refine ⟨hundisturbed, fun id mock hmock => ?_, fun source p id mock hmock => ?_⟩
  · rw [hundisturbed.modules, hmock, Option.map_some, Module.after_mock]
  · rw [hundisturbed.dispatched, hmock, Option.map_some, Module.after_mock]

/-- Two mocks, one of which refuses payloads, and three events. The second overtakes the first, and
the third begins when both have returned. -/
theorem events_undisturbed_overtaking :
    let config : Config := {
      modules := [.ofType "sink" "test.mock",
        .withParams (.ofType "refusing" "test.mock") ⟨[("fail_output", .bool true)]⟩]
      routes := [.withProcessor (.between "in" "sink")
          (.withParams (.ofType "test.append") ⟨[("suffix", .string "!")]⟩),
        .between "in" "refusing", .between "other" "sink"] }
    let r := (Assembly.ofConfig .all config).router
    let output := Module.output .isolated
    let events : List Traffic.Event := [.begin "in" (.text "x"), .step 0 0,
      .begin "other" (.text "y"), .step 1 0, .step 0 1, .step 0 0,
      .begin "in" (.text "z"), .step 2 0, .step 2 0, .step 2 1]
    (∀ route ∈ r.routes, ∀ m, r.module? route.output = some m → ∃ mock, m = .mock mock) ∧
    MocksUndisturbed .isolated r events ∧
    (r.traffic output events).flights.map Flight.outcome? =
      [some ⟨true, [⟨1, "in", "refusing", .output (.module (.other "mock output failure"))⟩]⟩,
        some ⟨true, []⟩,
        some ⟨true, [⟨1, "in", "refusing", .output (.module (.other "mock output failure"))⟩]⟩] ∧
    (sentTo "sink" ((r.traffic output events).deliveries.map Delivery.given)).map Payload.display =
      ["y", "x!", "z!"] := by
  intro config r output events
  have hmocks : ∀ route ∈ r.routes, ∀ m, r.module? route.output = some m →
      ∃ mock, m = .mock mock := by
    have hall : ∀ route ∈ r.routes, (match r.module? route.output with
        | some (.mock _) | none => true
        | some _ => false) = true := by decide +kernel
    intro route hroute m hm
    have hmock := hall route hroute
    rw [hm] at hmock
    cases m with
    | mock mock => exact ⟨mock, rfl⟩
    | tcpClient | tcpServer | udpServer | udpClient | interval => cases hmock
  exact ⟨hmocks, events_undisturbed .isolated r hmocks events, by decide +kernel,
    by decide +kernel⟩

end Router

end Switchboard
