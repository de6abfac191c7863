import Mathlib.Data.List.Forall2
import Switchboard.Proofs.Processor.Report

/-!
# Routes compose

A payload goes through the processors of a route one after the other, up to the first that does not
pass it on. The run of two lists of processors is therefore the run of the first and, when a payload
comes out of it, the run of the second with that payload. `runWith` is a run of processors that may
have effects of any kind. To observe a run is to run with one such effect, that calls are noted;
what is noted are the processors up to the first that does not pass on, each once.
-/

namespace Switchboard

/-- No payload goes on. -/
def Processed.Stops (result : Processed) : Prop := ∀ p, result ≠ .passed p

theorem Processed.passed_or_stops (result : Processed) :
    (∃ p, result = .passed p) ∨ result.Stops := by
  cases result with
  | passed p => exact .inl ⟨p, rfl⟩
  | dropped | failed | crashed => exact .inr nofun

namespace Route

variable {processors rest : List Processor} {processor : Processor} {p q : Payload}
variable {result : Processed} {log : List LogEntry} {calls : List (Processor × Payload)}

/-! ## Results and events -/

/-- Goes on with the payload that has come out, and adds to the events. -/
def andThen (so : Processed × List LogEntry) (next : Payload → Processed × List LogEntry) :
    Processed × List LogEntry :=
  match so with
  | (.passed p, log) => ((next p).1, log ++ (next p).2)
  | stopped => stopped

theorem andThen_passed (p : Payload) (log : List LogEntry)
    (next : Payload → Processed × List LogEntry) :
    andThen (.passed p, log) next = ((next p).1, log ++ (next p).2) := rfl

theorem andThen_of_stops (h : result.Stops) (log : List LogEntry)
    (next : Payload → Processed × List LogEntry) : andThen (result, log) next = (result, log) := by
  cases result with
  | passed p => exact absurd rfl (h p)
  | dropped | failed | crashed => rfl

theorem andThen_assoc (so : Processed × List LogEntry)
    (next last : Payload → Processed × List LogEntry) :
    andThen (andThen so next) last = andThen so fun p => andThen (next p) last := by
  rcases so with ⟨result, log⟩
  rcases result.passed_or_stops with ⟨p, rfl⟩ | hstops
  · rw [andThen_passed, andThen_passed]
    rcases next p with ⟨result, log'⟩
    rcases result.passed_or_stops with ⟨q, rfl⟩ | hstops
    · simp [andThen_passed]
    · simp [andThen_of_stops hstops]
  · simp [andThen_of_stops hstops]

theorem runProcessors_cons (processor : Processor) (rest : List Processor) (p : Payload) :
    runProcessors (processor :: rest) p = andThen (processor.process p) (runProcessors rest) := by
  unfold runProcessors
  rcases processor.process p with ⟨result, log⟩
  cases result <;> rfl

theorem runProcessors_cons_of_passed (h : (processor.process p).1 = .passed q)
    (rest : List Processor) :
    runProcessors (processor :: rest) p =
      ((runProcessors rest q).1, (processor.process p).2 ++ (runProcessors rest q).2) := by
  rw [runProcessors_cons, ← Prod.eta (processor.process p), h, andThen_passed]

theorem runProcessors_cons_of_stops (h : (processor.process p).1.Stops) (rest : List Processor) :
    runProcessors (processor :: rest) p = processor.process p := by
  rw [runProcessors_cons]
  exact andThen_of_stops h _ _

theorem runProcessors_append (first later : List Processor) (p : Payload) :
    runProcessors (first ++ later) p =
      andThen (runProcessors first p) (runProcessors later) := by
  induction first generalizing p with
  | nil => simp [runProcessors, andThen_passed]
  | cons processor rest ih =>
    rw [List.cons_append, runProcessors_cons, runProcessors_cons, andThen_assoc]
    congr 1
    funext q
    exact ih q

/-! ## Effects -/

section Effects

variable {π σ : Type}

/-- Passes a payload through steps up to the first that does not pass it on. `process` is how a step
is run, which may have effects. -/
def runWith (process : π → Payload → StateM σ Processed) : List π → Payload → StateM σ Processed
  | [], p => pure (.passed p)
  | step :: rest, p => do
    match ← process step p with
    | .passed q => runWith process rest q
    | stopped => pure stopped

theorem run_runWith_cons (process : π → Payload → StateM σ Processed) (step : π) (rest : List π)
    (p : Payload) (s : σ) :
    (runWith process (step :: rest) p).run s =
      match (process step p).run s with
      | (.passed q, t) => (runWith process rest q).run t
      | stopped => stopped := by
  simp only [runWith, StateT.run_bind]
  rcases (process step p).run s with ⟨result, t⟩
  cases result <;> rfl

theorem run_runWith_cons_of_stops {process : π → Payload → StateM σ Processed} {step : π} {s : σ}
    (h : ((process step p).run s).1.Stops) (rest : List π) :
    (runWith process (step :: rest) p).run s = (process step p).run s := by
  rw [run_runWith_cons]
  generalize (process step p).run s = so at h ⊢
  rcases so with ⟨result, t⟩
  cases result with
  | passed q => exact absurd rfl (h q)
  | dropped | failed | crashed => rfl

theorem runWith_append (process : π → Payload → StateM σ Processed) (first later : List π)
    (p : Payload) :
    runWith process (first ++ later) p = (do
      match ← runWith process first p with
      | .passed q => runWith process later q
      | stopped => pure stopped) := by
  induction first generalizing p with
  | nil => simp [runWith]
  | cons step rest ih =>
    simp only [List.cons_append, runWith, bind_assoc]
    congr 1
    funext result
    cases result with
    | passed q => exact ih q
    | dropped | failed | crashed => simp

end Effects

/-! ## Calls -/

/-- How a processor is called when its calls and its events are noted. -/
def observed (processor : Processor) (p : Payload) :
    StateM (List (Processor × Payload) × List LogEntry) Processed :=
  fun (calls, log) =>
    ((processor.process p).1, calls ++ [(processor, p)], log ++ (processor.process p).2)

/-- The calls that are noted in the course of a run: of which processor and with what. -/
def invocations (processors : List Processor) (p : Payload) : List (Processor × Payload) :=
  ((runWith observed processors p).run ([], [])).2.1

theorem runWith_observed_of_passed (h : (processor.process p).1 = .passed q)
    (rest : List Processor) (calls : List (Processor × Payload)) (log : List LogEntry) :
    (runWith observed (processor :: rest) p).run (calls, log) =
      (runWith observed rest q).run
        (calls ++ [(processor, p)], log ++ (processor.process p).2) := by
  have hcall : (observed processor p).run (calls, log) =
      (.passed q, calls ++ [(processor, p)], log ++ (processor.process p).2) := by
    rw [← h]
    rfl
  rw [run_runWith_cons, hcall]

theorem runWith_observed_of_stops (h : (processor.process p).1.Stops)
    (rest : List Processor) (calls : List (Processor × Payload)) (log : List LogEntry) :
    (runWith observed (processor :: rest) p).run (calls, log) =
      ((processor.process p).1, calls ++ [(processor, p)], log ++ (processor.process p).2) := by
  apply run_runWith_cons_of_stops
  exact h

/-- The note of a run has its result, its calls and its events. -/
theorem run_observed (processors : List Processor) (p : Payload)
    (calls : List (Processor × Payload)) (log : List LogEntry) :
    (runWith observed processors p).run (calls, log) =
      ((runProcessors processors p).1, calls ++ invocations processors p,
        log ++ (runProcessors processors p).2) := by
  induction processors generalizing p calls log with
  | nil =>
    show (Processed.passed p, calls, log) = (.passed p, calls ++ [], log ++ [])
    simp
  | cons processor rest ih =>
    unfold invocations
    rcases (processor.process p).1.passed_or_stops with ⟨q, hpassed⟩ | hstops
    · rw [runWith_observed_of_passed hpassed, runWith_observed_of_passed hpassed,
        runProcessors_cons_of_passed hpassed, ih, ih]
      simp
    · rw [runWith_observed_of_stops hstops, runWith_observed_of_stops hstops,
        runProcessors_cons_of_stops hstops]
      simp

theorem invocations_nil (p : Payload) : invocations [] p = [] := rfl

theorem invocations_cons_of_passed (h : (processor.process p).1 = .passed q)
    (rest : List Processor) :
    invocations (processor :: rest) p = (processor, p) :: invocations rest q := by
  rw [invocations, runWith_observed_of_passed h, run_observed]
  rfl

theorem invocations_cons_of_stops (h : (processor.process p).1.Stops) (rest : List Processor) :
    invocations (processor :: rest) p = [(processor, p)] := by
  rw [invocations, runWith_observed_of_stops h]
  rfl

theorem invocations_append (first later : List Processor) (p : Payload) :
    invocations (first ++ later) p =
      match (runProcessors first p).1 with
      | .passed q => invocations first p ++ invocations later q
      | _ => invocations first p := by
  induction first generalizing p with
  | nil => rfl
  | cons processor rest ih =>
    rcases (processor.process p).1.passed_or_stops with ⟨q, hpassed⟩ | hstops
    · rw [List.cons_append, invocations_cons_of_passed hpassed, invocations_cons_of_passed hpassed,
        runProcessors_cons_of_passed hpassed, ih]
      cases (runProcessors rest q).1 <;> rfl
    · rw [List.cons_append, invocations_cons_of_stops hstops, invocations_cons_of_stops hstops,
        runProcessors_cons_of_stops hstops]
      generalize (processor.process p).1 = result at hstops
      cases result with
      | passed q => exact absurd rfl (hstops q)
      | dropped | failed | crashed => rfl

/-- The events of a run are those of its calls. -/
theorem events_eq (processors : List Processor) (p : Payload) :
    (runProcessors processors p).2 =
      (invocations processors p).flatMap fun call => (call.1.process call.2).2 := by
  induction processors generalizing p with
  | nil => rfl
  | cons processor rest ih =>
    rcases (processor.process p).1.passed_or_stops with ⟨q, hpassed⟩ | hstops
    · rw [invocations_cons_of_passed hpassed, runProcessors_cons_of_passed hpassed,
        List.flatMap_cons, ih]
    · rw [invocations_cons_of_stops hstops, runProcessors_cons_of_stops hstops,
        List.flatMap_singleton]

/-! ## The first that does not pass on -/

/-- Every call passes on what it is given, the first `p`, and the next is given that; the last
passes on `q`. -/
inductive Leads : Payload → List (Processor × Payload) → Payload → Prop where
  | nil (p : Payload) : Leads p [] p
  | cons {processor : Processor} {p q r : Payload} {calls : List (Processor × Payload)}
      (hfirst : (processor.process p).1 = .passed q) (hrest : Leads q calls r) :
      Leads p ((processor, p) :: calls) r

/-- Processors come to a result by calls: all of them pass on, or those up to the first that does not
are called and it is what comes of that one. -/
inductive EndsAfter (processors : List Processor) (p : Payload) :
    Processed → List (Processor × Payload) → Prop where
  | passed {q : Payload} {calls : List (Processor × Payload)} (hcalls : Leads p calls q)
      (hall : calls.map Prod.fst = processors) : EndsAfter processors p (.passed q) calls
  | stopped {processor : Processor} {q : Payload} {before : List (Processor × Payload)}
      {after : List Processor} (hbefore : Leads p before q)
      (hstops : (processor.process q).1.Stops)
      (hsplit : processors = before.map Prod.fst ++ processor :: after) :
      EndsAfter processors p (processor.process q).1 (before ++ [(processor, q)])

theorem endsAfter_run (processors : List Processor) (p : Payload) :
    EndsAfter processors p (runProcessors processors p).1 (invocations processors p) := by
  induction processors generalizing p with
  | nil => exact .passed (.nil p) rfl
  | cons processor rest ih =>
    rcases (processor.process p).1.passed_or_stops with ⟨q, hpassed⟩ | hstops
    · rw [invocations_cons_of_passed hpassed, runProcessors_cons_of_passed hpassed]
      have hrest := ih q
      generalize (runProcessors rest q).1 = result at hrest ⊢
      generalize invocations rest q = calls at hrest ⊢
      cases hrest with
      | passed hcalls hall => exact .passed (.cons hpassed hcalls) (by rw [List.map_cons, hall])
      | stopped hbefore hstops hsplit =>
        exact .stopped (.cons hpassed hbefore) hstops (by rw [hsplit, List.map_cons]; rfl)
    · rw [invocations_cons_of_stops hstops, runProcessors_cons_of_stops hstops]
      exact .stopped (.nil p) hstops rfl

theorem Leads.run (h : Leads p calls q) (rest : List Processor) :
    (runProcessors (calls.map Prod.fst ++ rest) p).1 = (runProcessors rest q).1 ∧
      invocations (calls.map Prod.fst ++ rest) p = calls ++ invocations rest q := by
  induction h with
  | nil p => exact ⟨rfl, rfl⟩
  | cons hfirst _ ih =>
    rw [List.map_cons, List.cons_append, runProcessors_cons_of_passed hfirst,
      invocations_cons_of_passed hfirst, List.cons_append, ih.2]
    exact ⟨ih.1, rfl⟩

theorem endsAfter_iff : EndsAfter processors p result calls ↔
    (runProcessors processors p).1 = result ∧ invocations processors p = calls := by
  constructor
  · intro h
    cases h with
    | passed hcalls hall =>
      have hrun := hcalls.run []
      rw [List.append_nil, hall, invocations_nil, List.append_nil] at hrun
      exact hrun
    | @stopped processor q before after hbefore hstops hsplit =>
      have hrun := hbefore.run (processor :: after)
      rw [← hsplit, runProcessors_cons_of_stops hstops, invocations_cons_of_stops hstops] at hrun
      exact hrun
  · rintro ⟨rfl, rfl⟩
    exact endsAfter_run processors p

/-! ## Reported payloads -/

/-- The event shows the payload of the call, and the processor passes every payload on. -/
def Shows (call : Processor × Payload) (entry : LogEntry) : Prop :=
  ∃ before, (∀ p, call.1.process p = (.passed p, [Processor.describe before p])) ∧
    entry = Processor.describe before call.2

/-- The calls of the processors that report payloads. -/
def reports (calls : List (Processor × Payload)) : List (Processor × Payload) :=
  calls.filter fun call => call.1.type = "debug.log"

theorem shows_of_reportsByType {calls : List (Processor × Payload)}
    (h : ∀ call ∈ calls, call.1.ReportsByType) :
    List.Forall₂ Shows (reports calls)
      (calls.flatMap fun call => (call.1.process call.2).2) := by
  induction calls with
  | nil => exact .nil
  | cons call calls ih =>
    obtain ⟨hfirst, hrest⟩ := List.forall_mem_cons.1 h
    have hlater := ih hrest
    unfold Processor.ReportsByType at hfirst
    unfold reports at hlater ⊢
    rw [List.flatMap_cons]
    by_cases htype : call.1.type = "debug.log"
    · rw [if_pos htype] at hfirst
      obtain ⟨before, hprocess⟩ := hfirst
      rw [List.filter_cons_of_pos (by simpa using htype), hprocess]
      exact .cons ⟨before, hprocess, rfl⟩ hlater
    · rw [if_neg htype] at hfirst
      rw [List.filter_cons_of_neg (by simpa using htype), hfirst]
      exact hlater

theorem map_fst_isPrefix (h : EndsAfter processors p result calls) :
    calls.map Prod.fst <+: processors := by
  cases h with
  | passed _ hall =>
    exact ⟨[], by rw [hall, List.append_nil]⟩
  | @stopped processor q before after _ _ hsplit =>
    refine ⟨after, ?_⟩
    rw [hsplit]
    simp

/-! ## Two lists of processors -/

/-- What a run of processors is: its result, its calls and its events. A run in which calls and
events are noted has the result and the events of the run. All processors are called in order and
pass on, or those up to the first that does not are called, each once, and its result is that of the
run. The events are those of the calls. When all processors are of types that come with the library,
these are the events that show the payloads which reporting processors are called with, one for each
call. -/
structure RunsUpTo (processors : List Processor) (p : Payload) : Prop where
  observed : (runWith observed processors p).run ([], []) =
    ((runProcessors processors p).1, invocations processors p, (runProcessors processors p).2)
  ends : ∀ result calls, (runProcessors processors p).1 = result ∧ invocations processors p = calls ↔
    EndsAfter processors p result calls
  events : (runProcessors processors p).2 =
    (invocations processors p).flatMap fun call => (call.1.process call.2).2
  shown : (∀ processor ∈ processors, processor.FromLibrary) →
    List.Forall₂ Shows (reports (invocations processors p)) (runProcessors processors p).2

theorem runsUpTo (processors : List Processor) (p : Payload) : RunsUpTo processors p where
  observed := run_observed processors p [] []
  ends := fun _ _ => endsAfter_iff.symm
  events := events_eq processors p
  shown := by
    intro hlibrary
    rw [events_eq]
    apply shows_of_reportsByType
    intro call hcall
    have hmem : call.1 ∈ processors :=
      (map_fst_isPrefix (endsAfter_run processors p)).subset (List.mem_map_of_mem hcall)
    exact (hlibrary call.1 hmem).reportsByType

/-- **Routes compose.** A run of two lists of processors is the run of the first list and, when a
payload comes out of it, the run of the second with that payload, whatever effects processors may
have; for the processors of a route these are its result, its events and its calls. A run ends at the
first processor that does not pass on what it is given. -/
theorem run_one_after_the_other :
    (∀ (π σ : Type) (process : π → Payload → StateM σ Processed) (first later : List π)
        (p : Payload),
      runWith process (first ++ later) p = (do
        match ← runWith process first p with
        | .passed q => runWith process later q
        | stopped => pure stopped)) ∧
    ∀ (r : Route) (first later : List Processor) (p : Payload),
      { r with processors := first ++ later }.run p =
          andThen ({ r with processors := first }.run p) { r with processors := later }.run ∧
        invocations (first ++ later) p =
          (match ({ r with processors := first }.run p).1 with
          | .passed q => invocations first p ++ invocations later q
          | _ => invocations first p) ∧
        RunsUpTo r.processors p := by
  refine ⟨fun _ _ => runWith_append, ?_⟩
  intro r first later p
  exact ⟨runProcessors_append first later p, invocations_append first later p, runsUpTo _ p⟩

end Route

end Switchboard
