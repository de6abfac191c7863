import Switchboard.Processor.Document
import Switchboard.Processor.Expression
import Switchboard.Processor.Fixed
import Switchboard.Processor.Number
import Switchboard.Processor.Report
import Switchboard.Registry.Basic

/-!
# The processors that come with the library
-/

namespace Switchboard.Processor

/-- The registration of a step that has no parameters. -/
def fixed (processor : Processor) : Registration ProcessorConstructor :=
  .of processor.type fun _ => .ok processor

/-- The steps for use, in the order in which they are registered. -/
def builtins : List (Registration ProcessorConstructor) :=
  [fixed stringDecode, fixed stringEncode, .of "string.filter" stringFilter,
    .of "string.template" stringTemplate, fixed intParse, fixed floatParse,
    .of "float.scale" floatScale, .of "float.clamp" floatClamp, .of "expr.evaluate" exprEvaluate,
    fixed jsonDecode, fixed jsonEncode, .of "debug.log" debugLog]

/-- The steps for trying routes, in the order in which they are registered. -/
def trials : List (Registration ProcessorConstructor) :=
  [fixed pass, fixed drop, fixed fail, .of "test.append" append]

end Switchboard.Processor
