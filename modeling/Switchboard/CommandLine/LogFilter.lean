import Switchboard.Log
import Switchboard.Text.Blank
import Switchboard.Text.Letters

/-!
# Log filters

Which events are shown is said by directives between commas. A directive is a level, or a target
with or without a level after an equals sign; the target may go on with a span and its fields in
brackets. What is no level where one may stand alone is a target.
-/

namespace Switchboard

/-- The gravest and all graver events up to a level, if there is one. Without a level nothing is
shown. -/
structure LogThreshold where
  level : Option LogLevel
  deriving DecidableEq, Repr

/-- Why a text is no log filter. -/
inductive LogFilterError where
  | level
  | directive
  deriving DecidableEq, Repr

namespace LogFilterError

/-- How the error reads. -/
def message : LogFilterError → String
  | .level => "error parsing level filter: expected one of \"off\", \"error\", \"warn\", " ++
      "\"info\", \"debug\", \"trace\", or a number 0-5"
  | .directive => "invalid filter directive"

/-- The error and those inside it. A bad level reads alike inside and out. -/
def chain (e : LogFilterError) : List String :=
  match e with
  | .level => [e.message, e.message]
  | .directive => [e.message]

end LogFilterError

namespace LogThreshold

/-- The threshold of a name in any case or of a number. The empty name stands for errors. -/
def ofText? (text : String) : Option LogThreshold :=
  let digits := if text.startsWith "+" then text.toList.drop 1 else text.toList
  if !digits.isEmpty && digits.all Char.isDigit then
    match digits.foldl (fun n c => 10 * n + (c.toNat - 48)) 0 with
    | 0 => some ⟨none⟩
    | 1 => some ⟨some .error⟩
    | 2 => some ⟨some .warn⟩
    | 3 => some ⟨some .info⟩
    | 4 | 5 => some ⟨some .debug⟩
    | _ => none
  else
    match String.ofList (text.toList.map Char.toLower) with
    | "off" => some ⟨none⟩
    | "" | "error" => some ⟨some .error⟩
    | "warn" => some ⟨some .warn⟩
    | "info" => some ⟨some .info⟩
    | "debug" | "trace" => some ⟨some .debug⟩
    | _ => none

/-- Everything is shown. -/
def everything : LogThreshold := ⟨some .debug⟩

/-- How far down a level is. -/
def depth : LogLevel → Nat
  | .error => 1
  | .warn => 2
  | .info => 3
  | .debug => 4

/-- Whether events of a level are shown. -/
def shows (t : LogThreshold) (level : LogLevel) : Bool :=
  match t.level with
  | some least => depth level ≤ depth least
  | none => false

end LogThreshold

/-- One directive: a threshold for the events of a target, or for all. Without a target it stands
for all. -/
structure LogDirective where
  target : Option String
  threshold : LogThreshold
  deriving DecidableEq, Repr

namespace LogDirective

/-- A level after an equals sign; without one everything is shown. -/
def levelOf (text : List Char) : Except LogFilterError LogThreshold :=
  if text.isEmpty then .ok .everything
  else
    match LogThreshold.ofText? (String.ofList text) with
    | some t => .ok t
    | none => .error .level

/-- What follows the brackets of a span: nothing, or an equals sign and a level. -/
def afterSpan : List Char → Except LogFilterError LogThreshold
  | [] => .ok .everything
  | '=' :: level => levelOf level
  | _ => .error .directive

/-- What follows the opening bracket of a span. Fields stand in braces and are not empty. -/
def span (text : List Char) : Except LogFilterError LogThreshold :=
  match text.dropWhile fun c => c ≠ ']' ∧ c ≠ '{' with
  | ']' :: rest => afterSpan rest
  | '{' :: fields =>
    match fields.takeWhile (· ≠ '}'), fields.dropWhile (· ≠ '}') with
    | _ :: _, '}' :: ']' :: rest => afterSpan rest
    | _, _ => .error .directive
  | _ => .error .directive

/-- Whether a directive can begin with a character. -/
def canBegin (c : Char) : Bool :=
  c == '-' || c == ':' || c == '_' || Text.isLetter c || Text.isNumber c

/-- The directive of a text. -/
def ofText (text : List Char) : Except LogFilterError LogDirective := do
  match Text.trimBlank text with
  | [] => return ⟨none, .everything⟩
  | '[' :: rest => return ⟨none, ← span rest⟩
  | c :: rest =>
    if !canBegin c then throw .directive
    let name := (c :: rest).takeWhile fun c => c ≠ '=' ∧ c ≠ '['
    match (c :: rest).dropWhile fun c => c ≠ '=' ∧ c ≠ '[' with
    | '=' :: level => return ⟨some (String.ofList name), ← levelOf level⟩
    | '[' :: after => return ⟨some (String.ofList name), ← span after⟩
    | _ =>
      match LogThreshold.ofText? (String.ofList name) with
      | some threshold => return ⟨none, threshold⟩
      | none => return ⟨some (String.ofList name), .everything⟩

end LogDirective

/-- Which events are shown. -/
structure LogFilter where
  directives : List LogDirective

namespace LogFilter

/-- The filter of a text. -/
def ofText (text : String) : Except LogFilterError LogFilter := do
  let pieces := (text.splitOn ",").filter fun piece => !piece.isEmpty
  return ⟨← pieces.mapM fun piece => LogDirective.ofText piece.toList⟩

/-- Whether events of a level are shown, as the last directive for all targets says; errors are
where there is none. -/
def shows (f : LogFilter) (level : LogLevel) : Bool :=
  match (f.directives.filter fun d => d.target.isNone).getLast? with
  | some d => d.threshold.shows level
  | none => f.directives.isEmpty && level == .error

end LogFilter

end Switchboard
