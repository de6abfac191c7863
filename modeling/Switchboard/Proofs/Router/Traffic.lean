import Switchboard.Proofs.Positions
import Switchboard.Proofs.Router.Dispatch
import Switchboard.Router.Traffic

/-!
# One step of an event in flight

What a leg still has to do comes to what its whole route comes to, and with destinations that
answer a payload alike whatever they have been given before, this is the same whatever the other
legs have done in between. So a step of a leg keeps what its event comes to, gives a destination
what the route delivers to it when it ends the leg, and nothing otherwise.
-/

namespace Switchboard

section

variable {M : Type} {output : Outlet M} {modules now : Table M} {ds : List (String × Payload)}
variable {p q : Payload} {route : Route} {rest rest' : List Processor} {leg : Leg}

theorem Given.isSome_find? (h : Given output modules now ds) (id : String) :
    (now.find? id).isSome = (modules.find? id).isSome := by
  rw [h id, Option.isSome_map]

/-! ## The rest of a route -/

namespace Route

/-- How the route ends when its processors have come to a result, and how it leaves the modules. -/
def arrive (output : Outlet M) (modules : Table M) (route : Route) :
    Processed → RouteEnd × Table M
  | .passed q =>
    match modules.find? route.output with
    | none => (.failed (route.error (.output (.noModule route.output))), modules)
    | some m =>
      match output m q with
      | (.ok (), m) => (.delivered, modules.insert route.output m)
      | (.error e, m) =>
        (.failed (route.error (.output (.module e))), modules.insert route.output m)
  | .dropped => (.filtered, modules)
  | .failed e => (.failed (route.error (.process e)), modules)
  | .crashed => (.crashed, modules)

theorem send_eq_arrive (output : Outlet M) (modules : Table M) (route : Route) (p : Payload) :
    ((route.send output modules p).1, (route.send output modules p).2.1) =
      route.arrive output modules (route.run p).1 := by
  obtain ⟨⟨result, log⟩, hrun⟩ : ∃ result, route.run p = result := ⟨_, rfl⟩
  cases result with
  | passed q =>
    simp only [send, arrive, hrun]
    cases modules.find? route.output with
    | none => rfl
    | some m =>
      obtain ⟨⟨answer, m'⟩, hout⟩ : ∃ result, output m q = result := ⟨_, rfl⟩
      simp only [hout]
      cases answer <;> rfl
  | dropped | failed | crashed => simp only [send, arrive, hrun]

/-- The end of a route is a matter of the modules as they were before all deliveries. -/
theorem send_fst_eq (hsteady : ∀ m, modules.find? route.output = some m → Outlet.Steady output m)
    (h : Given output modules now ds) :
    (route.send output now p).1 = (route.send output modules p).1 := by
  have hends (modules : Table M) : (route.send output modules p).1 =
      (route.arrive output modules (route.run p).1).1 :=
    congrArg Prod.fst (send_eq_arrive output modules route p)
  rw [hends, hends]
  cases (route.run p).1 with
  | passed q =>
    have hnow := h route.output
    cases hfind : modules.find? route.output with
    | none =>
      rw [hfind, Option.map_none] at hnow
      simp only [arrive, hnow, hfind]
    | some m =>
      have hanswer := hsteady m hfind (sentTo route.output ds) q
      rw [hfind, Option.map_some] at hnow
      obtain ⟨⟨answer, m'⟩, hout⟩ : ∃ result, output m q = result := ⟨_, rfl⟩
      obtain ⟨⟨answer', m''⟩, hout'⟩ : ∃ result,
        output (Outlet.after output m (sentTo route.output ds)) q = result := ⟨_, rfl⟩
      rw [hout, hout'] at hanswer
      obtain rfl : answer' = answer := hanswer
      simp only [arrive, hnow, hfind, hout, hout']
      cases answer' <;> rfl
  | dropped | failed | crashed => rfl

/-- Processors that come to what those of the route come to end it alike. -/
theorem send_of_runProcessors (h : (runProcessors rest q).1 = (route.run p).1) :
    ((route.withProcessors rest).send output modules q).1 = (route.send output modules p).1 ∧
    ((route.withProcessors rest).send output modules q).2.1 =
      (route.send output modules p).2.1 := by
  have hrun : ((route.withProcessors rest).run q).1 = (route.run p).1 := h
  have hsend := send_eq_arrive output modules (route.withProcessors rest) q
  rw [hrun] at hsend
  exact Prod.mk.inj (hsend.trans (send_eq_arrive output modules route p).symm)

theorem delivery?_of_runProcessors (h : (runProcessors rest q).1 = (route.run p).1) :
    (route.withProcessors rest).delivery? modules q = route.delivery? modules p := by
  have hrun : ((route.withProcessors rest).run q).1 = (route.run p).1 := h
  rw [delivery?, delivery?, hrun]
  rfl

theorem delivery?_congr (h : Given output modules now ds) :
    route.delivery? now p = route.delivery? modules p := by
  simp only [delivery?, h.isSome_find?]

end Route

/-! ## One leg -/

namespace Leg

/-- The leg comes to what its whole route comes to from `p`. -/
def Sound (output : Outlet M) (modules : Table M) (p : Payload) (leg : Leg) : Prop :=
  match leg.progress with
  | .underway rest q => (Route.runProcessors rest q).1 = (leg.route.run p).1
  | .ended e => e = (leg.route.send output modules p).1

/-- What the leg has given by now: what its route delivers, if it has ended. -/
def delivered? (modules : Table M) (p : Payload) (leg : Leg) : Option (String × Payload) :=
  if leg.isEnded then leg.route.delivery? modules p else none

/-- How many steps the leg can still take. -/
def work (leg : Leg) : Nat :=
  match leg.progress with
  | .underway rest _ => rest.length + 1
  | .ended _ => 0

theorem advance?_eq_some (h : advance? rest p = some (rest', q)) :
    (Route.runProcessors rest p).1 = (Route.runProcessors rest' q).1 ∧
      ∃ processor, rest = processor :: rest' := by
  cases rest with
  | nil => cases h
  | cons processor later =>
    obtain ⟨⟨result, log⟩, hprocess⟩ : ∃ result, processor.process p = result := ⟨_, rfl⟩
    rw [advance?, hprocess] at h
    cases result with
    | passed q' =>
      cases h
      rw [Route.runProcessors, hprocess]
      exact ⟨rfl, processor, rfl⟩
    | dropped | failed | crashed => cases h

/-- A leg that cannot get past a processor gives its destination what its route delivers: nothing
unless there is no processor left. -/
theorem handed?_eq (h : advance? rest p = none) :
    handed? modules route.output rest p =
      (route.withProcessors rest).delivery? modules p := by
  cases rest with
  | nil => rfl
  | cons processor later =>
    obtain ⟨⟨result, log⟩, hprocess⟩ : ∃ result, processor.process p = result := ⟨_, rfl⟩
    rw [advance?, hprocess] at h
    cases result with
    | passed q => cases h
    | dropped | failed | crashed =>
      simp only [handed?, Route.delivery?, Route.run, Route.withProcessors, Route.runProcessors,
        hprocess]

/-- A leg does not take more steps than it has processors, and one more. -/
theorem work_step_le (output : Outlet M) (modules : Table M) (leg : Leg) :
    (leg.step output modules).1.work ≤ leg.work - 1 := by
  obtain ⟨route, progress⟩ := leg
  cases progress with
  | ended e => exact Nat.le_refl 0
  | underway rest q =>
    cases hadvance : advance? rest q with
    | none =>
      simp only [step, hadvance]
      exact Nat.zero_le _
    | some next =>
      obtain ⟨rest', q'⟩ := next
      obtain ⟨-, processor, rfl⟩ := advance?_eq_some hadvance
      simp only [step, hadvance]
      exact Nat.le_refl _

theorem isEnded_of_work_eq_zero (h : leg.work = 0) : leg.isEnded = true := by
  obtain ⟨route, progress⟩ := leg
  cases progress with
  | underway rest q => cases h
  | ended e => rfl

/-- What a step does to a leg that has not ended: it comes to the same as before, and if it ends
now, its destination is given what the route delivers. -/
theorem step_spec (hsound : leg.Sound output modules p) (hended : leg.isEnded = false)
    (hsteady : ∀ m, modules.find? leg.route.output = some m → Outlet.Steady output m)
    (h : Given output modules now ds) :
    (leg.step output now).1.route = leg.route ∧
    (leg.step output now).1.Sound output modules p ∧
    (leg.step output now).2.1 = (leg.step output now).1.delivered? modules p ∧
    Given output modules (leg.step output now).2.2 (ds ++ (leg.step output now).2.1.toList) := by
  obtain ⟨route, progress⟩ := leg
  cases progress with
  | ended e => cases hended
  | underway rest q =>
    cases hadvance : advance? rest q with
    | some next =>
      obtain ⟨rest', q'⟩ := next
      obtain ⟨hrun, -⟩ := advance?_eq_some hadvance
      have hsound' : (Route.runProcessors rest' q').1 = (route.run p).1 := hrun.symm.trans hsound
      simp only [step, hadvance]
      refine ⟨trivial, hsound', rfl, ?_⟩
      rw [Option.toList_none, List.append_nil]
      exact h
    | none =>
      have hdelivery : handed? now route.output rest q = route.delivery? modules p := by
        rw [handed?_eq hadvance, Route.delivery?_congr h, Route.delivery?_of_runProcessors hsound]
      have hsteady' : ∀ m, modules.find? (route.withProcessors rest).output = some m →
          Outlet.Steady output m := hsteady
      have hend : ((route.withProcessors rest).send output now q).1 =
          (route.send output modules p).1 := by
        rw [Route.send_fst_eq hsteady' h, (Route.send_of_runProcessors hsound).1]
      have hsend : Given output modules ((route.withProcessors rest).send output now q).2.1
          (ds ++ ((route.withProcessors rest).delivery? modules q).toList) :=
        (Route.send_spec hsteady' h).1
      rw [Route.delivery?_of_runProcessors hsound] at hsend
      simp only [step, hadvance, hdelivery]
      exact ⟨trivial, hend, rfl, hsend⟩

/-- What a leg becomes and gives does not depend on what the others have done. -/
theorem Sound.step_eq (hsound : leg.Sound output modules p)
    (hsteady : ∀ m, modules.find? leg.route.output = some m → Outlet.Steady output m)
    (h : Given output modules now ds) :
    (leg.step output now).1 = (leg.step output modules).1 ∧
      (leg.step output now).2.1 = (leg.step output modules).2.1 := by
  cases hended : leg.isEnded with
  | true =>
    obtain ⟨route, progress⟩ := leg
    cases progress with
    | underway rest q => cases hended
    | ended e => exact ⟨rfl, rfl⟩
  | false =>
    have hleg : (leg.step output now).1 = (leg.step output modules).1 := by
      obtain ⟨route, progress⟩ := leg
      cases progress with
      | ended e => rfl
      | underway rest q =>
        cases hadvance : advance? rest q with
        | some next => simp only [step, hadvance]
        | none =>
          have hsteady' : ∀ m, modules.find? (route.withProcessors rest).output = some m →
              Outlet.Steady output m := hsteady
          simp only [step, hadvance, Route.send_fst_eq hsteady' h]
    obtain ⟨-, -, hgiven, -⟩ := step_spec hsound hended hsteady h
    obtain ⟨-, -, hgiven', -⟩ := step_spec hsound hended hsteady (given_nil output modules)
    exact ⟨hleg, by rw [hgiven, hgiven', hleg]⟩

/-! ### Legs that have ended -/

theorem isEnded_of_isCrashed (h : leg.isCrashed = true) : leg.isEnded = true := by
  obtain ⟨route, progress⟩ := leg
  cases progress with
  | underway rest q => cases h
  | ended e => rfl

/-- A leg that has ended has crashed exactly if a processor of its route ends the task. -/
theorem Sound.isCrashed_eq (h : leg.Sound output modules p) (hended : leg.isEnded = true) :
    leg.isCrashed = leg.route.crashes p := by
  obtain ⟨route, progress⟩ := leg
  cases progress with
  | underway rest q => cases hended
  | ended e =>
    have hiff := Route.crashed_iff output modules route p
    have he : e = (route.send output modules p).1 := h
    rw [← he] at hiff
    rw [Bool.eq_iff_iff, ← hiff]
    cases e with
    | crashed => exact iff_of_true rfl rfl
    | delivered | filtered | failed => exact iff_of_false nofun nofun

/-- A leg that has ended has failed as its route fails. -/
theorem Sound.error?_eq (h : leg.Sound output modules p) (hended : leg.isEnded = true)
    (hcrashed : leg.isCrashed = false)
    (hsteady : ∀ m, modules.find? leg.route.output = some m → Outlet.Steady output m) :
    leg.error? = leg.route.failure? output modules p := by
  obtain ⟨route, progress⟩ := leg
  cases progress with
  | underway rest q => cases hended
  | ended e =>
    have hends := (Route.send_spec (p := p) hsteady (given_nil output modules)).2
    have he : e = (route.send output modules p).1 := h
    rw [← he] at hends
    cases e with
    | failed e => exact hends.1.symm
    | delivered | filtered => exact hends.1.symm
    | crashed => cases hcrashed

end Leg

/-! ## One event -/

/-- The destinations of the routes answer a payload alike whatever they have been given. -/
def Router.Steady (output : Outlet M) (r : Router M) : Prop :=
  ∀ route ∈ r.routes, ∀ m, r.modules.find? route.output = some m → Outlet.Steady output m

namespace Flight

variable {r : Router M} {f : Flight} {k : Nat}

/-- The legs are those of the routes from the source, and none has lost its way. -/
structure Sound (output : Outlet M) (r : Router M) (f : Flight) : Prop where
  routes : f.legs.map Leg.route = r.matching f.source
  legs : ∀ leg ∈ f.legs, leg.Sound output r.modules f.payload

/-- What the legs have given by now. -/
def delivered (r : Router M) (f : Flight) : List (String × Payload) :=
  f.legs.filterMap (Leg.delivered? r.modules f.payload)

theorem sound_flight (output : Outlet M) (r : Router M) (source : String) (p : Payload) :
    (r.flight source p).Sound output r := by
  constructor
  · simp only [Router.flight, List.map_map]
    exact List.map_id _
  · intro leg hleg
    obtain ⟨route, -, rfl⟩ := List.mem_map.1 hleg
    rfl

theorem delivered_flight (r : Router M) (source : String) (p : Payload) :
    (r.flight source p).delivered r = [] := by
  rw [delivered, List.filterMap_eq_nil_iff]
  intro leg hleg
  obtain ⟨route, -, rfl⟩ := List.mem_map.1 hleg
  rfl

theorem Sound.steady (h : f.Sound output r) (hr : r.Steady output) {leg : Leg}
    (hleg : leg ∈ f.legs) :
    ∀ m, r.modules.find? leg.route.output = some m → Outlet.Steady output m := by
  have hroute : leg.route ∈ r.matching f.source := h.routes ▸ List.mem_map_of_mem hleg
  exact hr leg.route (Router.mem_matching.1 hroute).1

/-- A step changes nothing, or one leg that has not ended. -/
theorem step_cases (output : Outlet M) (now : Table M) (f : Flight) (k : Nat) :
    f.step output now k = (f, none, now) ∨
    ∃ leg, f.isOver = false ∧ f.legs[k]? = some leg ∧ leg.isEnded = false ∧
      f.step output now k = ({ f with legs := f.legs.set k (leg.step output now).1 },
        (leg.step output now).2.1, (leg.step output now).2.2) := by
  cases hover : f.isOver with
  | true => exact .inl (by rw [step, if_pos hover])
  | false =>
    rw [step, if_neg (by simp [hover])]
    cases hleg : f.legs[k]? with
    | none => exact .inl rfl
    | some leg =>
      cases hended : leg.isEnded with
      | false => exact .inr ⟨leg, rfl, rfl, hended, rfl⟩
      | true =>
        obtain ⟨route, progress⟩ := leg
        cases progress with
        | underway rest q => cases hended
        | ended e =>
          obtain ⟨hk, hget⟩ := List.getElem?_eq_some_iff.1 hleg
          have hset : f.legs.set k ⟨route, .ended e⟩ = f.legs := by
            rw [← hget, List.set_getElem_self]
          exact .inl (by simp only [Leg.step, hset])

/-- What a step keeps, and what it adds to what the legs have given. -/
theorem Sound.step (h : f.Sound output r) (hr : r.Steady output)
    (hnow : Given output r.modules now ds) (k : Nat) :
    (f.step output now k).1.source = f.source ∧
    (f.step output now k).1.payload = f.payload ∧
    (f.step output now k).1.Sound output r ∧
    ((f.step output now k).1.delivered r).Perm
      (f.delivered r ++ (f.step output now k).2.1.toList) ∧
    Given output r.modules (f.step output now k).2.2
      (ds ++ (f.step output now k).2.1.toList) := by
  obtain hstep | ⟨leg, -, hleg, hended, hstep⟩ := step_cases output now f k
  · rw [hstep, Option.toList_none, List.append_nil, List.append_nil]
    exact ⟨rfl, rfl, h, List.Perm.refl _, hnow⟩
  · have hmem : leg ∈ f.legs := List.mem_of_getElem? hleg
    have hsound := h.legs leg hmem
    obtain ⟨hroute, hsound', hgiven, hnow'⟩ :=
      Leg.step_spec hsound hended (h.steady hr hmem) hnow
    rw [hstep]
    refine ⟨rfl, rfl, ⟨?_, ?_⟩, ?_, hnow'⟩
    · exact (map_set_eq_map hleg hroute).trans h.routes
    · exact (forall_mem_set_iff hleg (iff_of_true hsound' hsound)).2 h.legs
    · have hnone : leg.delivered? r.modules f.payload = none := by
        rw [Leg.delivered?, if_neg (by simp [hended])]
      rw [hgiven]
      exact filterMap_set_perm hleg hnone

/-- What an event becomes and gives does not depend on what the others have done. -/
theorem Sound.step_eq (h : f.Sound output r) (hr : r.Steady output)
    (hnow : Given output r.modules now ds) (k : Nat) :
    (f.step output now k).1 = (f.step output r.modules k).1 ∧
      (f.step output now k).2.1 = (f.step output r.modules k).2.1 := by
  cases hover : f.isOver with
  | true =>
    rw [Flight.step, Flight.step, if_pos hover, if_pos hover]
    exact ⟨rfl, rfl⟩
  | false =>
    rw [Flight.step, Flight.step, if_neg (by simp [hover]), if_neg (by simp [hover])]
    cases hleg : f.legs[k]? with
    | none => exact ⟨rfl, rfl⟩
    | some leg =>
      have hmem : leg ∈ f.legs := List.mem_of_getElem? hleg
      obtain ⟨hfst, hgiven⟩ := (h.legs leg hmem).step_eq (h.steady hr hmem) hnow
      simp only [hfst, hgiven]
      exact ⟨trivial, trivial⟩

/-- Each step of a leg brings its end nearer and leaves the other legs alone. -/
theorem work_step (output : Outlet M) (now : Table M) (k : Nat) (hover : f.isOver = false) {j : Nat}
    {leg : Leg} (hleg : (f.step output now k).1.legs[j]? = some leg) :
    ∃ before, f.legs[j]? = some before ∧ leg.work ≤ before.work - if j = k then 1 else 0 := by
  rw [step, if_neg (by simp [hover])] at hleg
  cases hk : f.legs[k]? with
  | none =>
    rw [hk] at hleg
    have hne : j ≠ k := by
      rintro rfl
      cases hk.symm.trans hleg
    exact ⟨leg, hleg, by rw [if_neg hne, Nat.sub_zero]⟩
  | some moving =>
    rw [hk] at hleg
    have hlt : k < f.legs.length := (List.getElem?_eq_some_iff.1 hk).1
    by_cases hj : j = k
    · subst hj
      have hset : (f.legs.set j (moving.step output now).1)[j]? = some leg := hleg
      rw [List.getElem?_set_self hlt, Option.some.injEq] at hset
      subst hset
      exact ⟨moving, hk, by rw [if_pos rfl]; exact Leg.work_step_le output now moving⟩
    · have hset : (f.legs.set k (moving.step output now).1)[j]? = some leg := hleg
      rw [List.getElem?_set_ne (Ne.symm hj)] at hset
      exact ⟨leg, hset, by rw [if_neg hj, Nat.sub_zero]⟩

theorem isOver_of_work_eq_zero (h : ∀ leg ∈ f.legs, leg.work = 0) : f.isOver = true := by
  have hended : f.legs.all Leg.isEnded = true :=
    List.all_eq_true.2 fun leg hleg => Leg.isEnded_of_work_eq_zero (h leg hleg)
  rw [isOver, hended, Bool.or_true]

theorem step_of_isOver (now : Table M) (k : Nat) (hover : f.isOver = true) :
    f.step output now k = (f, none, now) := if_pos hover

/-! ### Events that are over -/

theorem Sound.any_crashes_eq (h : f.Sound output r) :
    (r.matching f.source).any (Route.crashes f.payload) =
      f.legs.any fun leg => leg.route.crashes f.payload := by
  rw [← h.routes, List.any_map]
  rfl

/-- When all legs have ended and none has crashed, no processor of a route ends the task. -/
theorem Sound.any_crashes_eq_false (h : f.Sound output r)
    (hended : ∀ leg ∈ f.legs, leg.isEnded = true) (hcrashed : f.crashed = false) :
    (r.matching f.source).any (Route.crashes f.payload) = false := by
  rw [h.any_crashes_eq, List.any_eq_false]
  intro leg hleg
  rw [← (h.legs leg hleg).isCrashed_eq (hended leg hleg)]
  exact List.any_eq_false.1 hcrashed leg hleg

theorem outcome?_isSome_iff :
    f.outcome?.isSome = true ↔ f.crashed = false ∧ ∀ leg ∈ f.legs, leg.isEnded = true := by
  rw [outcome?, isOver]
  cases f.crashed with
  | true => simp
  | false => simp

/-- The source learns what it learns when its event is dispatched. -/
theorem Sound.outcome?_eq (h : f.Sound output r) (hr : r.Steady output) (hover : f.isOver = true) :
    f.outcome? = (r.dispatch output f.source f.payload).1 := by
  have hsteady : ∀ route ∈ r.matching f.source, ∀ m, r.modules.find? route.output = some m →
      Outlet.Steady output m := fun route hroute => hr route (Router.mem_matching.1 hroute).1
  rw [(Router.dispatch_spec hsteady).1, outcome?, hover]
  cases hcrashed : f.crashed with
  | true =>
    have hcrashes : (r.matching f.source).any (Route.crashes f.payload) = true := by
      rw [h.any_crashes_eq, List.any_eq_true]
      obtain ⟨leg, hleg, hcrash⟩ := List.any_eq_true.1 hcrashed
      exact ⟨leg, hleg, by
        rw [← (h.legs leg hleg).isCrashed_eq (Leg.isEnded_of_isCrashed hcrash), hcrash]⟩
    rw [if_pos hcrashes]
    rfl
  | false =>
    have hended : ∀ leg ∈ f.legs, leg.isEnded = true := by
      rw [isOver, hcrashed, Bool.false_or] at hover
      exact List.all_eq_true.1 hover
    have hcrashes := h.any_crashes_eq_false hended hcrashed
    have herrors : f.legs.filterMap Leg.error? =
        failures output r.modules f.payload (r.matching f.source) := by
      rw [failures, ← h.routes, List.filterMap_map]
      refine List.filterMap_congr fun leg hleg => ?_
      have hcrashed' : leg.isCrashed = false := by
        simpa using List.any_eq_false.1 hcrashed leg hleg
      exact (h.legs leg hleg).error?_eq (hended leg hleg) hcrashed' (h.steady hr hleg)
    have hempty : f.legs.isEmpty = (r.matching f.source).isEmpty := by
      rw [← h.routes, List.isEmpty_map]
    rw [hcrashes, if_neg Bool.false_ne_true, Router.reached_of_not_any hcrashes, herrors, hempty]
    rfl

/-- What an event has given that has come back is what dispatching it delivers. -/
theorem Sound.delivered_eq (h : f.Sound output r) (hreturned : f.outcome?.isSome = true) :
    f.delivered r = deliveries r.modules f.payload
      (reached f.payload (r.matching f.source)) := by
  obtain ⟨hcrashed, hended⟩ := outcome?_isSome_iff.1 hreturned
  rw [Router.reached_of_not_any (h.any_crashes_eq_false hended hcrashed), deliveries, ← h.routes,
    List.filterMap_map]
  refine List.filterMap_congr fun leg hleg => ?_
  rw [Leg.delivered?, if_pos (hended leg hleg)]
  rfl

end Flight

end

end Switchboard
