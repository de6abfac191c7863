import Switchboard.Processor.Basic

/-!
# Processors of fixed behaviour

Steps for trying routes: one passes every payload, one drops it, one fails, and one appends a text.
-/

namespace Switchboard.Processor

/-- Passes every payload. -/
def pass : Processor := .quiet "test.pass" .passed

/-- Drops every payload. -/
def drop : Processor := .quiet "test.drop" fun _ => .dropped

/-- Fails for every payload. -/
def fail : Processor := .quiet "test.fail" fun _ => .failed (.other "test processor failure")

/-- Builds a step that appends a text to texts. -/
def append : ProcessorConstructor := fun params => do
  let suffix ← ProcessError.ofParam (params.getString "suffix")
  return .quiet "test.append" fun p => .ofView p.asText fun s => .passed (.text (s ++ suffix))

end Switchboard.Processor
