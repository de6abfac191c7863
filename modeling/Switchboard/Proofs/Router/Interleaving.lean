import Switchboard.Proofs.Router.Traffic

/-!
# Events in flight do not disturb one another

However the steps of several events are mixed, each event takes the way that it takes when there is
no other, since its steps only depend on its own legs and on answers that do not change. What the
destinations have been given is what the events have given, and this is known at any moment from
how far their legs have come.
-/

namespace Switchboard

namespace Traffic

section

variable {M : Type} {output : Outlet M} {r : Router M} {t s : Traffic M} {f : Flight}
variable {i j k n : Nat} {source : String} {p : Payload} {event : Event} {events : List Event}

/-! ## One step -/

theorem run_append (front back : List Event) :
    t.run output r (front ++ back) = (t.run output r front).run output r back :=
  List.foldl_append

theorem deliveriesOf_append (modules : Table M) (flights : List Flight)
    (given : List (String × Payload)) :
    deliveriesOf j ⟨modules, flights, t.deliveries ++ given.map (⟨n, ·⟩)⟩ =
      t.deliveriesOf j ++ if n = j then given else [] := by
  rw [deliveriesOf, List.filterMap_append, List.filterMap_map]
  by_cases hn : n = j <;> simp [hn, deliveriesOf, Delivery.givenBy?]

/-- A step of a leg of an event that has begun. -/
theorem step_step (hf : t.flights[n]? = some f) (k : Nat) :
    t.step output r (.step n k) =
      ⟨(f.step output t.modules k).2.2, t.flights.set n (f.step output t.modules k).1,
        t.deliveries ++ (f.step output t.modules k).2.1.toList.map (⟨n, ·⟩)⟩ := by
  simp only [step, hf]

theorem step_step_of_none (hf : t.flights[n]? = none) (k : Nat) :
    t.step output r (.step n k) = t := by
  simp only [step, hf]

theorem legOf?_eq_some_iff : event.legOf? n = some k ↔ event = .step n k := by
  cases event with
  | begin source p => exact iff_of_false nofun nofun
  | step m j => simp [Event.legOf?]

/-- An event moves on by its own steps. -/
theorem step_own (output : Outlet M) (r : Router M) (hf : t.flights[n]? = some f) (k : Nat) :
    (t.step output r (.step n k)).flights[n]? = some (f.step output t.modules k).1 ∧
    (t.step output r (.step n k)).deliveriesOf n =
      t.deliveriesOf n ++ (f.step output t.modules k).2.1.toList := by
  obtain ⟨hn, -⟩ := List.getElem?_eq_some_iff.1 hf
  rw [step_step hf, deliveriesOf_append, if_pos rfl]
  exact ⟨List.getElem?_set_self hn, rfl⟩

/-- It stays as it is while others take steps or begin. -/
theorem step_other (output : Outlet M) (r : Router M) (hf : t.flights[n]? = some f)
    (hevent : event.legOf? n = none) :
    (t.step output r event).flights[n]? = some f ∧
    ∃ others, (t.step output r event).deliveries = t.deliveries ++ others ∧
      ∀ d ∈ others, d.flight ≠ n := by
  cases event with
  | begin source p =>
    obtain ⟨hn, -⟩ := List.getElem?_eq_some_iff.1 hf
    exact ⟨(List.getElem?_append_left hn).trans hf, [], (List.append_nil _).symm, nofun⟩
  | step m k =>
    have hm : m ≠ n := by
      rintro rfl
      rw [legOf?_eq_some_iff.2 rfl] at hevent
      cases hevent
    cases hother : t.flights[m]? with
    | none =>
      rw [step_step_of_none hother]
      exact ⟨hf, [], (List.append_nil _).symm, nofun⟩
    | some g =>
      rw [step_step hother]
      refine ⟨(List.getElem?_set_ne hm).trans hf, _, rfl, ?_⟩
      intro d hd
      obtain ⟨given, -, rfl⟩ := List.mem_map.1 hd
      exact hm

theorem deliveriesOf_eq_of_others {others : List Delivery}
    (h : s.deliveries = t.deliveries ++ others) (hothers : ∀ d ∈ others, d.flight ≠ n) :
    s.deliveriesOf n = t.deliveriesOf n := by
  have hnone : others.filterMap (Delivery.givenBy? n) = [] :=
    List.filterMap_eq_nil_iff.2 fun d hd => if_neg (hothers d hd)
  rw [deliveriesOf, h, List.filterMap_append, hnone, List.append_nil, deliveriesOf]

/-! ## What every step keeps -/

/-- The modules have been given what the events have given, and each event has given what the legs
that have ended deliver. -/
structure Sound (output : Outlet M) (r : Router M) (t : Traffic M) : Prop where
  given : Given output r.modules t.modules (t.deliveries.map Delivery.given)
  flights : ∀ f ∈ t.flights, f.Sound output r
  delivered : ∀ n f, t.flights[n]? = some f → (t.deliveriesOf n).Perm (f.delivered r)
  begun : ∀ d ∈ t.deliveries, d.flight < t.flights.length

theorem sound_start (output : Outlet M) (r : Router M) : (start r).Sound output r where
  given := given_nil output r.modules
  flights := nofun
  delivered := nofun
  begun := nofun

theorem Sound.flight (ht : t.Sound output r) (hf : t.flights[n]? = some f) : f.Sound output r :=
  ht.flights f (List.mem_of_getElem? hf)

theorem Sound.deliveriesOf_eq_nil (ht : t.Sound output r) (hn : t.flights.length ≤ n) :
    t.deliveriesOf n = [] := by
  rw [deliveriesOf, List.filterMap_eq_nil_iff]
  intro d hd
  have hlt := ht.begun d hd
  exact if_neg (by omega)

theorem Sound.begin (ht : t.Sound output r) (source : String) (p : Payload) :
    (t.step output r (.begin source p)).Sound output r where
  given := ht.given
  flights := by
    intro f hf
    obtain hf | hf := List.mem_append.1 hf
    · exact ht.flights f hf
    · rw [List.mem_singleton.1 hf]
      exact Flight.sound_flight output r source p
  delivered := by
    intro n f hf
    by_cases hn : n < t.flights.length
    · exact ht.delivered n f ((List.getElem?_append_left hn).symm.trans hf)
    · have hlast : [r.flight source p][n - t.flights.length]? = some f := by
        rw [← List.getElem?_append_right (by omega)]
        exact hf
      have hnil : t.deliveriesOf n = [] := ht.deliveriesOf_eq_nil (by omega)
      obtain rfl := List.mem_singleton.1 (List.mem_of_getElem? hlast)
      rw [Flight.delivered_flight]
      exact List.Perm.of_eq hnil
  begun := by
    intro d hd
    have hlt := ht.begun d hd
    have hlength : (t.step output r (.begin source p)).flights.length = t.flights.length + 1 :=
      List.length_append
    omega

/-- The event that takes the step gives what its leg delivers, and no other event has changed. -/
theorem Sound.own (ht : t.Sound output r) (hr : r.Steady output) (hf : t.flights[n]? = some f)
    (k : Nat) : (t.step output r (.step n k)).Sound output r := by
  obtain ⟨-, -, hsound, hdelivered, hgiven⟩ := (ht.flight hf).step hr ht.given k
  obtain ⟨hflight, hdeliveries⟩ := step_own output r hf k
  constructor
  case given =>
    rw [step_step hf]
    simpa [Function.comp_def] using hgiven
  case flights =>
    rw [step_step hf]
    exact (forall_mem_set_iff hf (iff_of_true hsound (ht.flight hf))).2 ht.flights
  case delivered =>
    intro j g hg
    by_cases hj : n = j
    · subst hj
      rw [hflight] at hg
      cases hg
      rw [hdeliveries]
      exact ((ht.delivered n f hf).append_right _).trans hdelivered.symm
    · have hother : Event.legOf? j (.step n k) = none := if_neg hj
      have hg' : t.flights[j]? = some g := by
        rw [step_step hf] at hg
        exact (List.getElem?_set_ne hj).symm.trans hg
      obtain ⟨-, others, heq, hothers⟩ := step_other output r hg' hother
      rw [deliveriesOf_eq_of_others heq hothers]
      exact ht.delivered j g hg'
  case begun =>
    obtain ⟨hn, -⟩ := List.getElem?_eq_some_iff.1 hf
    rw [step_step hf]
    intro d hd
    rw [List.length_set]
    obtain hd | hd := List.mem_append.1 hd
    · exact ht.begun d hd
    · obtain ⟨given, -, rfl⟩ := List.mem_map.1 hd
      exact hn

theorem Sound.step (ht : t.Sound output r) (hr : r.Steady output) (event : Event) :
    (t.step output r event).Sound output r := by
  cases event with
  | begin source p => exact ht.begin source p
  | step n k =>
    cases hf : t.flights[n]? with
    | none =>
      rw [step_step_of_none hf]
      exact ht
    | some f => exact ht.own hr hf k

/-! ## Whole runs -/

theorem Sound.run (ht : t.Sound output r) (hr : r.Steady output) (events : List Event) :
    (t.run output r events).Sound output r := by
  induction events generalizing t with
  | nil => exact ht
  | cons event events ih => exact ih (ht.step hr event)

theorem legsOf_cons_of_none (h : event.legOf? n = none) (events : List Event) :
    legsOf n (event :: events) = legsOf n events :=
  List.filterMap_cons_none h

theorem legsOf_cons_of_some (h : event.legOf? n = some k) (events : List Event) :
    legsOf n (event :: events) = k :: legsOf n events :=
  List.filterMap_cons_some h

/-- The event of a number has come as far and has given the same as one that is alone. -/
structure Agrees (n : Nat) (t s : Traffic M) (f : Flight) : Prop where
  among : t.flights[n]? = some f
  alone : s.flights = [f]
  given : s.deliveriesOf 0 = t.deliveriesOf n

theorem Agrees.other (h : Agrees n t s f) (hevent : event.legOf? n = none) :
    Agrees n (t.step output r event) s f := by
  obtain ⟨hf, others, heq, hothers⟩ := step_other output r h.among hevent
  exact ⟨hf, h.alone, h.given.trans (deliveriesOf_eq_of_others heq hothers).symm⟩

/-- The same step is taken on both sides, whatever the modules have been given in between. -/
theorem Agrees.own (h : Agrees n t s f) (ht : t.Sound output r) (hs : s.Sound output r)
    (hr : r.Steady output) (k : Nat) :
    Agrees n (t.step output r (.step n k)) (s.step output r (.step 0 k))
      (f.step output t.modules k).1 := by
  have hf₀ : s.flights[0]? = some f := by
    rw [h.alone]
    rfl
  obtain ⟨hflight, hgive⟩ := (ht.flight h.among).step_eq hr ht.given k
  obtain ⟨hflight₀, hgive₀⟩ := (ht.flight h.among).step_eq hr hs.given k
  obtain ⟨hf', hgiven⟩ := step_own output r h.among k
  obtain ⟨-, hgiven₀⟩ := step_own output r hf₀ k
  refine ⟨hf', ?_, ?_⟩
  · rw [step_step hf₀, h.alone, hflight, hflight₀]
    rfl
  · rw [hgiven₀, hgiven, hgive₀, hgive, h.given]

/-- An event comes as far and gives the same as if the steps of the others had not been taken. -/
theorem Agrees.run (h : Agrees n t s f) (ht : t.Sound output r) (hs : s.Sound output r)
    (hr : r.Steady output) (events : List Event) :
    ∃ g : Flight, g.source = f.source ∧ g.payload = f.payload ∧
      Agrees n (t.run output r events) (s.run output r ((legsOf n events).map (.step 0))) g := by
  induction events generalizing t s f with
  | nil => exact ⟨f, rfl, rfl, h⟩
  | cons event events ih =>
    cases hleg : event.legOf? n with
    | none =>
      rw [legsOf_cons_of_none hleg]
      exact ih (h.other hleg) (ht.step hr event) hs
    | some k =>
      obtain rfl := legOf?_eq_some_iff.1 hleg
      obtain ⟨hsource, hpayload, -⟩ := (ht.flight h.among).step hr ht.given k
      obtain ⟨g, hsource', hpayload', hg⟩ :=
        ih (h.own ht hs hr k) (ht.step hr (.step n k)) (hs.step hr (.step 0 k))
      rw [legsOf_cons_of_some hleg]
      exact ⟨g, hsource'.trans hsource, hpayload'.trans hpayload, hg⟩

/-- An event is over when each of its legs has taken as many steps as it has to take. -/
theorem exists_isOver_run (hf : t.flights[n]? = some f)
    (hwork : f.isOver = true ∨
      ∀ k leg, f.legs[k]? = some leg → leg.work ≤ (legsOf n events).count k) :
    ∃ g, (t.run output r events).flights[n]? = some g ∧ g.isOver = true := by
  induction events generalizing t f with
  | nil =>
    refine ⟨f, hf, ?_⟩
    obtain hover | hwork := hwork
    · exact hover
    · apply Flight.isOver_of_work_eq_zero
      intro leg hleg
      obtain ⟨k, hk⟩ := List.getElem?_of_mem hleg
      exact Nat.eq_zero_of_le_zero (hwork k leg hk)
  | cons event events ih =>
    cases hleg : event.legOf? n with
    | none =>
      rw [legsOf_cons_of_none hleg] at hwork
      exact ih (step_other output r hf hleg).1 hwork
    | some k =>
      obtain rfl := legOf?_eq_some_iff.1 hleg
      refine ih (step_own output r hf k).1 ?_
      cases hover : f.isOver with
      | true =>
        rw [Flight.step_of_isOver t.modules k hover]
        exact .inl hover
      | false =>
        rw [hover, legsOf_cons_of_some hleg] at hwork
        have hcount := hwork.resolve_left Bool.false_ne_true
        refine .inr fun j leg hj => ?_
        obtain ⟨before, hbefore, hle⟩ := Flight.work_step output t.modules k hover hj
        have hle' := hcount j before hbefore
        rw [List.count_cons] at hle'
        by_cases hjk : j = k
        · rw [if_pos hjk] at hle
          rw [if_pos (beq_iff_eq.2 hjk.symm)] at hle'
          omega
        · rw [if_neg hjk] at hle
          rw [if_neg (by simpa using Ne.symm hjk)] at hle'
          omega

/-- An event that is over gives nothing more. -/
theorem exists_deliveries_run_eq (output : Outlet M) (r : Router M) (hf : t.flights[n]? = some f)
    (hover : f.isOver = true) (events : List Event) :
    ∃ later, (t.run output r events).deliveries = t.deliveries ++ later ∧
      ∀ d ∈ later, d.flight ≠ n := by
  induction events generalizing t with
  | nil => exact ⟨[], (List.append_nil _).symm, nofun⟩
  | cons event events ih =>
    have hstep : (t.step output r event).flights[n]? = some f ∧
        ∃ now, (t.step output r event).deliveries = t.deliveries ++ now ∧
          ∀ d ∈ now, d.flight ≠ n := by
      cases hleg : event.legOf? n with
      | none => exact step_other output r hf hleg
      | some k =>
        obtain rfl := legOf?_eq_some_iff.1 hleg
        have hf' := (step_own output r hf k).1
        rw [Flight.step_of_isOver t.modules k hover] at hf'
        refine ⟨hf', [], ?_, nofun⟩
        rw [step_step hf, Flight.step_of_isOver t.modules k hover]
        rfl
    obtain ⟨hf', now, hnow, hothers⟩ := hstep
    obtain ⟨later, hlater, hothers'⟩ := ih hf'
    refine ⟨now ++ later, ?_, ?_⟩
    · rw [← List.append_assoc, ← hnow]
      exact hlater
    · intro d hd
      exact (List.mem_append.1 hd).elim (hothers d) (hothers' d)

end

end Traffic

end Switchboard
