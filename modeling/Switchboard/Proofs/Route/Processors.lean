import Mathlib.Data.List.Forall2
import Switchboard.Route.Basic

/-!
# The processors of a route

A route that is built has for each of its entries, in order, what the constructor of the entry's type
makes of its parameters. A route stops at the first of them that does not pass a payload on.
-/

namespace Switchboard

/-- The registry makes a step of an entry. -/
def Registry.Makes (registry : Registry ProcessorConstructor) (given : ProcessorConfig)
    (processor : Processor) : Prop :=
  ∃ constructor, registry.lookup given.type = some constructor ∧
    constructor given.params = .ok processor

/-- Related lists are related place by place. -/
theorem exists_getElem?_of_forall₂ {α β : Type} {R : α → β → Prop} {as : List α} {bs : List β}
    (h : List.Forall₂ R as bs) {k : Nat} {a : α} (ha : as[k]? = some a) :
    ∃ b, bs[k]? = some b ∧ R a b := by
  obtain ⟨hlength, hget⟩ := List.forall₂_iff_get.1 h
  obtain ⟨hk, rfl⟩ := List.getElem?_eq_some_iff.1 ha
  exact ⟨bs[k], List.getElem?_eq_getElem (hlength ▸ hk), hget k hk (hlength ▸ hk)⟩

namespace Route

variable {registry : Registry ProcessorConstructor}

/-! ## Building -/

theorem makes_of_buildProcessors {position : Nat} {entries : List ProcessorConfig}
    {processors : List Processor}
    (h : Id.run (buildProcessors (fun (constructor : ProcessorConstructor) params =>
      pure (constructor params)) registry position entries) = .ok processors) :
    List.Forall₂ registry.Makes entries processors := by
  induction entries generalizing position processors with
  | nil =>
    obtain rfl := Except.ok.inj h
    exact .nil
  | cons given rest ih =>
    simp only [buildProcessors] at h
    cases hlookup : registry.lookup given.type with
    | none =>
      rw [hlookup] at h
      nomatch h
    | some constructor =>
      cases hmade : constructor given.params with
      | error e =>
        simp only [hlookup, hmade, Id.run_bind, Id.run_pure] at h
        nomatch h
      | ok processor =>
        simp only [hlookup, hmade, Id.run_bind, Id.run_pure] at h
        cases hrest : Id.run (buildProcessors (fun (constructor : ProcessorConstructor) params =>
          pure (constructor params)) registry (position + 1) rest) with
        | error fault =>
          rw [hrest] at h
          nomatch h
        | ok later =>
          rw [hrest] at h
          obtain rfl := Except.ok.inj h
          exact .cons ⟨constructor, hlookup, hmade⟩ (ih hrest)

/-- A route that is built has a step for each of its entries. -/
theorem makes_of_build {index : Nat} {config : RouteConfig} {route : Route}
    (h : build registry index config = .ok route) :
    List.Forall₂ registry.Makes config.processors route.processors := by
  simp only [build, buildWith, Id.run_bind] at h
  cases hprocessors : Id.run (buildProcessors (fun (constructor : ProcessorConstructor) params =>
      pure (constructor params)) registry 0 config.processors) with
  | error fault =>
    rw [hprocessors] at h
    nomatch h
  | ok processors =>
    rw [hprocessors] at h
    obtain rfl := Except.ok.inj h
    exact makes_of_buildProcessors hprocessors

/-! ## Running -/

/-- A step that ends the task is the first that does not pass the payload on. -/
theorem runProcessors_eq_crashed_iff {processors : List Processor} {p : Payload} :
    (runProcessors processors p).1 = .crashed ↔
      ∃ (k : Nat) (processor : Processor) (q : Payload), processors[k]? = some processor ∧
        (runProcessors (processors.take k) p).1 = .passed q ∧
        (processor.process q).1 = .crashed := by
  induction processors generalizing p with
  | nil => exact iff_of_false nofun nofun
  | cons first rest ih =>
    obtain ⟨⟨result, log⟩, hfirst⟩ : ∃ result, first.process p = result := ⟨_, rfl⟩
    constructor
    · intro h
      cases result with
      | passed q =>
        simp only [runProcessors, hfirst] at h
        obtain ⟨k, processor, q', hk, hpassed, hcrashed⟩ := ih.1 h
        refine ⟨k + 1, processor, q', hk, ?_, hcrashed⟩
        simpa only [List.take_succ_cons, runProcessors, hfirst] using hpassed
      | crashed => exact ⟨0, first, p, rfl, rfl, by rw [hfirst]⟩
      | dropped | failed =>
        simp only [runProcessors, hfirst] at h
        nomatch h
    · rintro ⟨k, processor, q, hk, hpassed, hcrashed⟩
      cases k with
      | zero =>
        obtain rfl := Option.some.inj hk
        obtain rfl := Processed.passed.inj hpassed
        rw [hfirst] at hcrashed
        obtain rfl : result = .crashed := hcrashed
        simp only [runProcessors, hfirst]
      | succ k =>
        rw [List.take_succ_cons] at hpassed
        cases result with
        | passed q' =>
          simp only [runProcessors, hfirst] at hpassed ⊢
          exact ih.2 ⟨k, processor, q, hk, hpassed, hcrashed⟩
        | dropped | failed | crashed =>
          simp only [runProcessors, hfirst] at hpassed
          nomatch hpassed

end Route

end Switchboard
