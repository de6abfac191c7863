import Switchboard.Processor.Basic

/-!
# Reporting payloads
-/

namespace Switchboard.Processor

/-- The event that shows a payload, after a text if one is given. -/
def describe (before : Option String) (p : Payload) : LogEntry :=
  let shown := p.display ++ " (" ++ p.kind ++ ")"
  ⟨.info, match before with
    | some text => text ++ " " ++ shown
    | none => shown⟩

/-- Builds a step that reports payloads and passes them on. -/
def debugLog : ProcessorConstructor := fun params => do
  let before ← match params.getString "prefix" with
    | .ok text => pure (some text)
    | .error (.notFound _) => pure none
    | .error e => throw (.param e)
  return ⟨"debug.log", fun p => (.passed p, [describe before p])⟩

end Switchboard.Processor
