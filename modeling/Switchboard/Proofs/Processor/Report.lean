import Switchboard.Proofs.Processor.Crash

/-!
# Steps that report payloads

Of the steps of types that come with the library, those of one type report every payload by one event
and pass it on; all others report nothing.
-/

namespace Switchboard.Processor

variable {processor : Processor} {params : Params}

/-- The step is built by the constructor of a type that comes with the library. -/
def FromLibrary (processor : Processor) : Prop :=
  ∃ given ∈ builtins ++ trials, ∃ constructor params,
    given.constructor = some constructor ∧ constructor params = .ok processor

/-- The step reports every payload and passes it on, with one text before all of them or none. -/
def Reports (processor : Processor) : Prop :=
  ∃ before, ∀ p, processor.process p = (.passed p, [describe before p])

/-- A step of another type reports nothing, one of this type every payload. -/
def ReportsByType (processor : Processor) : Prop :=
  if processor.type = "debug.log" then processor.Reports
  else ∀ p, (processor.process p).2 = []

theorem reportsByType_quiet {type : String} (h : type ≠ "debug.log") (f : Payload → Processed) :
    (quiet type f).ReportsByType := by
  unfold ReportsByType
  rw [if_neg (show (quiet type f).type ≠ "debug.log" from h)]
  intro p
  rfl

theorem reportsByType_of_stringFilter (h : stringFilter params = .ok processor) :
    processor.ReportsByType := by
  obtain ⟨text, -, h⟩ := Except.exists_of_bind_eq_ok h
  split at h
  · obtain rfl := Except.ok.inj h
    exact reportsByType_quiet (by decide) _
  · nomatch h

theorem reportsByType_of_stringTemplate (h : stringTemplate params = .ok processor) :
    processor.ReportsByType := by
  obtain ⟨template, -, h⟩ := Except.exists_of_bind_eq_ok h
  obtain rfl := Except.ok.inj h
  exact reportsByType_quiet (by decide) _

theorem reportsByType_of_floatScale (h : floatScale params = .ok processor) :
    processor.ReportsByType := by
  obtain ⟨scale, -, h⟩ := Except.exists_of_bind_eq_ok h
  obtain rfl := Except.ok.inj h
  exact reportsByType_quiet (by decide) _

theorem reportsByType_of_floatClamp (h : floatClamp params = .ok processor) :
    processor.ReportsByType := by
  obtain ⟨min, -, h⟩ := Except.exists_of_bind_eq_ok h
  obtain ⟨max, -, h⟩ := Except.exists_of_bind_eq_ok h
  simp only at h
  split at h
  · obtain ⟨_, h, -⟩ := Except.exists_of_bind_eq_ok h
    nomatch h
  · obtain rfl := Except.ok.inj h
    exact reportsByType_quiet (by decide) _

theorem reportsByType_of_exprEvaluate (h : exprEvaluate params = .ok processor) :
    processor.ReportsByType := by
  obtain ⟨formula, -, -, rfl⟩ := Formula.of_exprEvaluate h
  exact reportsByType_quiet (by decide) _

theorem reportsByType_of_append (h : append params = .ok processor) :
    processor.ReportsByType := by
  obtain ⟨suffix, -, h⟩ := Except.exists_of_bind_eq_ok h
  obtain rfl := Except.ok.inj h
  exact reportsByType_quiet (by decide) _

theorem reportsByType_of_debugLog (h : debugLog params = .ok processor) :
    processor.ReportsByType := by
  have hreports : ∀ before, (⟨"debug.log", fun p => (.passed p, [describe before p])⟩ :
      Processor).ReportsByType := by
    intro before
    unfold ReportsByType
    rw [if_pos rfl]
    exact ⟨before, fun _ => rfl⟩
  unfold debugLog at h
  split at h
  · obtain rfl := Except.ok.inj h
    exact hreports _
  · obtain rfl := Except.ok.inj h
    exact hreports _
  · nomatch h

theorem FromLibrary.reportsByType (h : processor.FromLibrary) : processor.ReportsByType := by
  obtain ⟨given, hgiven, constructor, params, hconstructor, hmade⟩ := h
  have hfixed : ∀ {type : String} {f : Payload → Processed}, type ≠ "debug.log" →
      given = fixed (quiet type f) → processor.ReportsByType := by
    rintro type f htype rfl
    obtain rfl := Option.some.inj hconstructor
    obtain rfl := Except.ok.inj hmade
    exact reportsByType_quiet htype f
  have hof : ∀ {name : String} {build : ProcessorConstructor},
      (∀ {params processor}, build params = .ok processor → processor.ReportsByType) →
        given = .of name build → processor.ReportsByType := by
    rintro name build hbuild rfl
    obtain rfl := Option.some.inj hconstructor
    exact hbuild hmade
  simp only [builtins, trials, List.cons_append, List.nil_append, List.mem_cons,
    List.not_mem_nil, or_false] at hgiven
  rcases hgiven with h | h | h | h | h | h | h | h | h | h | h | h | h | h | h | h
  · exact hfixed (by decide) h
  · exact hfixed (by decide) h
  · exact hof reportsByType_of_stringFilter h
  · exact hof reportsByType_of_stringTemplate h
  · exact hfixed (by decide) h
  · exact hfixed (by decide) h
  · exact hof reportsByType_of_floatScale h
  · exact hof reportsByType_of_floatClamp h
  · exact hof reportsByType_of_exprEvaluate h
  · exact hfixed (by decide) h
  · exact hfixed (by decide) h
  · exact hof reportsByType_of_debugLog h
  · exact hfixed (by decide) h
  · exact hfixed (by decide) h
  · exact hfixed (by decide) h
  · exact hof reportsByType_of_append h

end Switchboard.Processor
