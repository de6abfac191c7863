import Switchboard.Proofs.Router.Interleaving

/-!
# One leg after the other

An event that is dispatched goes along its routes in turn. It comes to the same as an event in
flight, of which one leg after the other takes its steps.
-/

namespace Switchboard

section

variable {M : Type} {output : Outlet M} {r : Router M} {t : Traffic M} {f : Flight} {leg : Leg}
variable {route : Route} {routes : List Route} {rest : List Processor} {p q : Payload}

/-! ## One leg -/

/-- A flight with a leg that has not ended and none that has crashed goes on. -/
theorem Flight.isOver_eq_false (hcrashed : f.crashed = false) (hleg : leg ∈ f.legs)
    (hended : leg.isEnded = false) : f.isOver = false := by
  have hwaiting : f.legs.all Leg.isEnded = false :=
    List.all_eq_false.2 ⟨leg, hleg, by simp [hended]⟩
  rw [isOver, hcrashed, hwaiting]
  rfl

namespace Traffic

variable {front back : List Leg}

theorem step_leg (hflight : t.flights = [f]) (hlegs : f.legs = front ++ leg :: back)
    (hcrashed : f.crashed = false) (hended : leg.isEnded = false) :
    (t.step output r (.step 0 front.length)).flights =
        [{ f with legs := front ++ (leg.step output t.modules).1 :: back }] ∧
      (t.step output r (.step 0 front.length)).modules = (leg.step output t.modules).2.2 := by
  have hmem : leg ∈ f.legs := by simp [hlegs]
  have hget : f.legs[front.length]? = some leg := by simp [hlegs]
  have hover := Flight.isOver_eq_false hcrashed hmem hended
  have hf : t.flights[0]? = some f := by
    rw [hflight]
    rfl
  have hset : f.legs.set front.length (leg.step output t.modules).1 =
      front ++ (leg.step output t.modules).1 :: back := by
    rw [hlegs]
    simp
  rw [step_step hf, Flight.step, if_neg (by simp [hover]), hget, hflight]
  simp only [hset]
  exact ⟨rfl, trivial⟩

/-- One leg can be brought to its end while the others wait. -/
theorem exists_run_leg (hflight : t.flights = [f])
    (hlegs : f.legs = front ++ ⟨route, .underway rest p⟩ :: back) (hcrashed : f.crashed = false) :
    ∃ steps : List Nat,
      (t.run output r (steps.map (.step 0))).flights =
        [{ f with legs := front ++
          ⟨route, .ended ((route.withProcessors rest).send output t.modules p).1⟩ :: back }] ∧
      (t.run output r (steps.map (.step 0))).modules =
        ((route.withProcessors rest).send output t.modules p).2.1 := by
  induction rest generalizing t f p with
  | nil =>
    obtain ⟨hflight', hmodules'⟩ := step_leg (r := r) hflight hlegs hcrashed rfl
    exact ⟨[front.length], hflight', hmodules'⟩
  | cons processor later ih =>
    obtain ⟨hflight', hmodules'⟩ := step_leg (r := r) hflight hlegs hcrashed rfl
    cases hadvance : Leg.advance? (processor :: later) p with
    | none =>
      simp only [Leg.step, hadvance] at hflight' hmodules'
      exact ⟨[front.length], hflight', hmodules'⟩
    | some next =>
      obtain ⟨rest', q⟩ := next
      obtain ⟨hrun, _, heq⟩ := Leg.advance?_eq_some hadvance
      obtain ⟨-, rfl⟩ := List.cons.inj heq
      simp only [Leg.step, hadvance] at hflight' hmodules'
      have hcrashed' : (⟨f.source, f.payload,
          front ++ ⟨route, .underway later q⟩ :: back⟩ : Flight).crashed = false := by
        rw [Flight.crashed, hlegs] at hcrashed
        rw [Flight.crashed, ← hcrashed, List.any_append, List.any_append]
        rfl
      obtain ⟨steps, hsteps, hmodules''⟩ := ih hflight' rfl hcrashed'
      rw [hmodules'] at hsteps hmodules''
      have hrun' : (Route.runProcessors later q).1 =
          ((route.withProcessors (processor :: later)).run p).1 := hrun.symm
      obtain ⟨hend, hleft⟩ := Route.send_of_runProcessors (p := p) hrun'
      refine ⟨front.length :: steps, hsteps.trans ?_, hmodules''.trans hleft⟩
      rw [← hend]
      rfl

/-! ## One leg after the other -/

/-- Steps of the only event bring it to its end, where it has come to what a call has come to. -/
def EndsAs (output : Outlet M) (r : Router M) (t : Traffic M) (legs : Nat) (c : Call)
    (modules : Table M) : Prop :=
  ∃ (steps : List Nat) (g : Flight),
    (t.run output r (steps.map (.step 0))).flights = [g] ∧
    (t.run output r (steps.map (.step 0))).modules = modules ∧
    g.legs.length = legs ∧ g.isOver = true ∧ g.crashed = c.crashed ∧
    (g.crashed = false → g.legs.filterMap Leg.error? = c.errors)

theorem EndsAs.after {steps : List Nat} {legs : Nat} {c : Call} {modules : Table M}
    (h : EndsAs output r (t.run output r (steps.map (.step 0))) legs c modules) :
    EndsAs output r t legs c modules := by
  obtain ⟨later, g, h⟩ := h
  refine ⟨steps ++ later, g, ?_⟩
  rw [List.map_append, run_append]
  exact h

/-- An event whose legs end one after the other comes to what the call of its routes comes to. -/
theorem endsAs_steps {ended : List Leg} (c : Call) (hflight : t.flights = [f])
    (hpending : c.crashed = false)
    (hlegs : f.legs = ended ++ c.waiting.map fun route =>
      ⟨route, .underway route.processors c.payload⟩)
    (hended : ∀ leg ∈ ended, leg.isEnded = true ∧ leg.isCrashed = false)
    (herrors : ended.filterMap Leg.error? = c.errors) :
    EndsAs output r t f.legs.length (c.steps output c.waiting.length t.modules).1
      (c.steps output c.waiting.length t.modules).2.1 := by
  obtain ⟨p, matched, waiting, errors, crashed⟩ := c
  obtain rfl : crashed = false := hpending
  induction waiting generalizing t f ended errors with
  | nil =>
    obtain rfl : f.legs = ended := hlegs.trans (List.append_nil _)
    have hcrashed : f.crashed = false :=
      List.any_eq_false.2 fun leg hleg => by simp [(hended leg hleg).2]
    have hover : f.isOver = true := by
      rw [Flight.isOver, List.all_eq_true.2 fun leg hleg => (hended leg hleg).1, Bool.or_true]
    exact ⟨[], f, hflight, rfl, rfl, hover, hcrashed, fun _ => herrors⟩
  | cons route rest ih =>
    have hcrashed : f.crashed = false := by
      rw [Flight.crashed, hlegs, List.any_append, Bool.or_eq_false_iff, List.any_map]
      refine ⟨List.any_eq_false.2 fun leg hleg => by simp [(hended leg hleg).2], ?_⟩
      exact List.any_eq_false.2 fun route _ => Bool.false_ne_true
    obtain ⟨steps, hflight', hmodules'⟩ := exists_run_leg (r := r) hflight hlegs hcrashed
    have hwhole : route.withProcessors route.processors = route := rfl
    rw [hwhole] at hflight' hmodules'
    obtain ⟨⟨e, now, log⟩, hsend⟩ : ∃ result, route.send output t.modules p = result := ⟨_, rfl⟩
    rw [hsend] at hflight' hmodules'
    simp only at hflight' hmodules'
    -- Unless this leg has crashed, the routes that are left are taken next.
    have hgo (errors' : List RoutingError) (hone : Leg.isCrashed ⟨route, .ended e⟩ = false)
        (herrors' : (ended ++ [(⟨route, .ended e⟩ : Leg)]).filterMap Leg.error? = errors') :
        EndsAs output r t f.legs.length
          (Call.steps output rest.length now ⟨p, matched, rest, errors', false⟩).1
          (Call.steps output rest.length now ⟨p, matched, rest, errors', false⟩).2.1 := by
      have hended' : ∀ leg ∈ ended ++ [(⟨route, .ended e⟩ : Leg)],
          leg.isEnded = true ∧ leg.isCrashed = false := by
        intro leg hleg
        obtain hleg | hleg := List.mem_append.1 hleg
        · exact hended leg hleg
        · rw [List.mem_singleton.1 hleg]
          exact ⟨rfl, hone⟩
      have hrest := ih hflight' hended' errors' (List.append_cons _ _ _) herrors'
      have hlength : f.legs.length = (ended ++ ⟨route, .ended e⟩ ::
          rest.map fun route => (⟨route, .underway route.processors p⟩ : Leg)).length := by
        rw [hlegs]
        simp
      rw [hlength]
      rw [hmodules'] at hrest
      exact hrest.after
    simp only [List.length_cons, Call.steps, Call.step, hsend]
    cases e with
    | crashed =>
      rw [Call.steps_of_waiting_eq_nil output _ _ rfl]
      have hcrash : (⟨f.source, f.payload, ended ++ ⟨route, .ended .crashed⟩ ::
          rest.map fun route => ⟨route, .underway route.processors p⟩⟩ : Flight).crashed = true :=
        List.any_eq_true.2 ⟨⟨route, .ended .crashed⟩, by simp, rfl⟩
      refine ⟨steps, _, hflight', hmodules', by simp [hlegs], ?_, hcrash, ?_⟩
      · rw [Flight.isOver, hcrash, Bool.true_or]
      · intro hnot
        cases hcrash.symm.trans hnot
    | failed e =>
      exact hgo (errors ++ [e]) rfl (by rw [List.filterMap_append, herrors]; rfl)
    | delivered | filtered =>
      exact hgo errors rfl (by rw [List.filterMap_append, herrors]; exact List.append_nil _)

end Traffic

theorem Call.matched_step (output : Outlet M) (modules : Table M) (c : Call) :
    (c.step output modules).1.matched = c.matched := by
  obtain ⟨p, matched, waiting, errors, crashed⟩ := c
  cases waiting with
  | nil => rfl
  | cons route rest =>
    obtain ⟨⟨e, now, log⟩, hsend⟩ : ∃ result, route.send output modules p = result := ⟨_, rfl⟩
    simp only [step, hsend]
    cases e <;> rfl

theorem Call.matched_steps (output : Outlet M) (n : Nat) (modules : Table M) (c : Call) :
    (c.steps output n modules).1.matched = c.matched := by
  induction n generalizing modules c with
  | zero => rfl
  | succ n ih =>
    rw [steps]
    exact (ih _ _).trans (matched_step output modules c)

/-- **Dispatching an event is bringing its legs to their ends, one after the other.** -/
theorem Router.exists_alone_eq_dispatch (output : Outlet M) (r : Router M) (source : String)
    (p : Payload) :
    ∃ (legs : List Nat) (f : Flight),
      (r.alone output source p legs).flights = [f] ∧ f.isOver = true ∧
      f.outcome? = (r.dispatch output source p).1 ∧
      (r.alone output source p legs).modules = (r.dispatch output source p).2.1.modules := by
  let begun : Traffic M := Traffic.step output r (Traffic.start r) (.begin source p)
  have hflight : begun.flights = [r.flight source p] := rfl
  have hnone : ∀ leg ∈ ([] : List Leg), leg.isEnded = true ∧ leg.isCrashed = false := nofun
  have hends : Traffic.EndsAs output r begun (r.flight source p).legs.length
      ((r.call source p).steps output (r.call source p).waiting.length r.modules).1
      ((r.call source p).steps output (r.call source p).waiting.length r.modules).2.1 :=
    Traffic.endsAs_steps (r.call source p) hflight rfl rfl hnone rfl
  obtain ⟨legs, g, hg, hmodules, hlength, hover, hcrashed, herrors⟩ := hends
  have hmatched := Call.matched_steps output (r.call source p).waiting.length r.modules
    (r.call source p)
  have hempty : g.legs.isEmpty = (r.matching source).isEmpty := by
    rw [Router.flight, List.length_map] at hlength
    rw [Bool.eq_iff_iff, List.isEmpty_iff_length_eq_zero, List.isEmpty_iff_length_eq_zero, hlength]
  refine ⟨legs, g, hg, hover, ?_, hmodules⟩
  simp only [Flight.outcome?, dispatch, Call.returned, hover, hmatched, ← hcrashed, hempty]
  cases hc : g.crashed with
  | true => rfl
  | false =>
    rw [herrors hc]
    rfl

end

end Switchboard
