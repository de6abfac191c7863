import Switchboard.Processor.Builtin
import Switchboard.Proofs.Except
import Switchboard.Proofs.Params.Keys

/-!
# The keys of processors

The processors of some types know a few keys, those of the others none. Where the values of several
keys must go together, they are compared after each has been accepted alone.
-/

namespace Switchboard.Processor

open Key (Reads ReadsAll reads_required reads_present reads_checked reads_pure)

/-- A pattern must be one. -/
def patternKey : Key ProcessError :=
  .required .param "pattern" .string fun text =>
    match Pattern.Expr.ofText text with
    | .ok _ => none
    | .error fault => some (.param (.invalid "pattern" fault.message))

/-- An expression must be one. -/
def expressionKey : Key ProcessError :=
  .required .param "expression" .string fun text =>
    match Expression.Tree.ofText text with
    | .ok _ => none
    | .error fault => some (.param (.invalid "expression" fault.message))

/-- The keys that processors of a type know, in the order in which they are looked at. -/
def keys : String → List (Key ProcessError)
  | "string.filter" => [patternKey]
  | "string.template" => [.required .param "template" .string]
  | "float.scale" => [.required .param "in_min" .float, .required .param "in_max" .float,
      .required .param "out_min" .float, .required .param "out_max" .float]
  | "float.clamp" => [.required .param "min" .float, .required .param "max" .float]
  | "expr.evaluate" => [expressionKey]
  | "debug.log" => [.optional .param "prefix" .string]
  | _ => []

/-- Why values that are accepted one by one are refused together: a range without length cannot be
scaled, and bounds must be numbers in order. -/
def together (type : String) (p : Params) : Option ProcessError := do
  match type with
  | "float.scale" =>
    let inMin ← (p.getFloat "in_min").toOption
    let inMax ← (p.getFloat "in_max").toOption
    if inMin == inMax then some (.param (.invalid "in_max" "input range is empty")) else none
  | "float.clamp" =>
    let min ← (p.getFloat "min").toOption
    let max ← (p.getFloat "max").toOption
    if min.isNaN || max.isNaN || decide (max < min) then
      let write := Decimal.Layout.plain.write
      some (.param (.invalid "max" (write max ++ " is below min " ++ write min)))
    else none
  | _ => none

/-! ## Constructors -/

theorem readsAll_stringFilter : ReadsAll (keys "string.filter") (fun _ => none) stringFilter := by
  refine (reads_checked ProcessError.param "pattern" .string ?_).all
  intro text e
  cases Pattern.Expr.ofText text with
  | ok pattern => exact iff_of_false nofun nofun
  | error fault => simp [throw, throwThe, MonadExceptOf.throw]

theorem readsAll_stringTemplate : ReadsAll (keys "string.template") (fun _ => none) stringTemplate :=
  ((reads_required ProcessError.param "template" .string).bind fun _ => reads_pure fun _ _ => rfl).all

theorem readsAll_exprEvaluate : ReadsAll (keys "expr.evaluate") (fun _ => none) exprEvaluate := by
  refine (reads_checked ProcessError.param "expression" .string ?_).all
  intro text e
  simp only [Formula.ofText]
  cases Expression.Tree.ofText text with
  | ok tree => exact iff_of_false nofun nofun
  | error fault => simp [throw, throwThe, MonadExceptOf.throw, bind, Except.bind]

/-! ### Numbers that go together -/

/-- The four numbers of a scale, each read alone. -/
def readScale (p : Params) : Except ProcessError Scale :=
  ProcessError.ofParam (p.getFloat "in_min") >>= fun inMin =>
    ProcessError.ofParam (p.getFloat "in_max") >>= fun inMax =>
      ProcessError.ofParam (p.getFloat "out_min") >>= fun outMin =>
        ProcessError.ofParam (p.getFloat "out_max") >>= fun outMax =>
          pure ⟨inMin, inMax, outMin, outMax⟩

theorem reads_readScale : Reads (keys "float.scale") readScale :=
  (reads_required ProcessError.param "in_min" .float).bind fun _ =>
    (reads_required ProcessError.param "in_max" .float).bind fun _ =>
      (reads_required ProcessError.param "out_min" .float).bind fun _ =>
        (reads_required ProcessError.param "out_max" .float).bind fun _ => reads_pure fun _ _ => rfl

theorem of_readScale {p : Params} {s : Scale} (h : readScale p = .ok s) :
    p.getFloat "in_min" = .ok s.inMin ∧ p.getFloat "in_max" = .ok s.inMax := by
  obtain ⟨inMin, hinMin, h⟩ := Except.exists_of_bind_eq_ok h
  obtain ⟨inMax, hinMax, h⟩ := Except.exists_of_bind_eq_ok h
  obtain ⟨outMin, -, h⟩ := Except.exists_of_bind_eq_ok h
  obtain ⟨outMax, -, h⟩ := Except.exists_of_bind_eq_ok h
  obtain rfl := Except.ok.inj h
  exact ⟨Except.of_mapError_eq_ok hinMin, Except.of_mapError_eq_ok hinMax⟩

theorem floatScale_eq (p : Params) : floatScale p = readScale p >>= fun s =>
    if s.inMin == s.inMax then .error (.param (.invalid "in_max" "input range is empty"))
    else .ok (.quiet "float.scale" fun p => .ofView p.asFloat fun v => .passed (.float (s.apply v))) := by
  simp only [floatScale, Scale.ofParams, readScale, bind_assoc, pure_bind]
  refine bind_congr fun inMin => bind_congr fun inMax => bind_congr fun outMin =>
    bind_congr fun outMax => ?_
  split <;> rfl

theorem readsAll_floatScale : ReadsAll (keys "float.scale") (together "float.scale") floatScale := by
  rw [funext floatScale_eq]
  refine reads_readScale.together ?_
  intro p s e hs
  obtain ⟨hinMin, hinMax⟩ := of_readScale hs
  simp only [together, hinMin, hinMax, Except.toOption, Option.bind_eq_bind, Option.bind_some]
  split <;> simp

/-- The two bounds, each read alone. -/
def readBounds (p : Params) : Except ProcessError (Float × Float) :=
  ProcessError.ofParam (p.getFloat "min") >>= fun min =>
    ProcessError.ofParam (p.getFloat "max") >>= fun max => pure (min, max)

theorem reads_readBounds : Reads (keys "float.clamp") readBounds :=
  (reads_required ProcessError.param "min" .float).bind fun _ =>
    (reads_required ProcessError.param "max" .float).bind fun _ => reads_pure fun _ _ => rfl

theorem of_readBounds {p : Params} {min max : Float} (h : readBounds p = .ok (min, max)) :
    p.getFloat "min" = .ok min ∧ p.getFloat "max" = .ok max := by
  obtain ⟨min', hmin, h⟩ := Except.exists_of_bind_eq_ok h
  obtain ⟨max', hmax, h⟩ := Except.exists_of_bind_eq_ok h
  obtain ⟨rfl, rfl⟩ := Prod.mk.inj (Except.ok.inj h)
  exact ⟨Except.of_mapError_eq_ok hmin, Except.of_mapError_eq_ok hmax⟩

theorem floatClamp_eq (p : Params) : floatClamp p = readBounds p >>= fun (min, max) =>
    if min.isNaN || max.isNaN || decide (max < min) then
      .error (.param (.invalid "max" (Decimal.Layout.plain.write max ++ " is below min " ++
        Decimal.Layout.plain.write min)))
    else .ok (.quiet "float.clamp" (clampNumber min max)) := by
  simp only [floatClamp, readBounds, bind_assoc, pure_bind]
  refine bind_congr fun min => bind_congr fun max => ?_
  split <;> rfl

theorem readsAll_floatClamp : ReadsAll (keys "float.clamp") (together "float.clamp") floatClamp := by
  rw [funext floatClamp_eq]
  refine reads_readBounds.together ?_
  rintro p ⟨min, max⟩ e h
  obtain ⟨hmin, hmax⟩ := of_readBounds h
  simp only [together, hmin, hmax, Except.toOption, Option.bind_eq_bind, Option.bind_some]
  split <;> simp

/-! ### Processors with one key, or none -/

theorem debugLog_eq (p : Params) :
    debugLog p = (Key.presentOf .param (p.getString "prefix")).map fun before =>
      ⟨"debug.log", fun p => (.passed p, [describe before p])⟩ := by
  unfold debugLog
  rcases p.getString "prefix" with (_ | _ | _) | text <;> rfl

theorem readsAll_debugLog : ReadsAll (keys "debug.log") (fun _ => none) debugLog := by
  rw [funext debugLog_eq]
  exact ((reads_present ProcessError.param "prefix" .string).map _).all

theorem readsAll_fixed (processor : Processor) :
    ReadsAll [] (fun _ => none) fun _ => (.ok processor : Except ProcessError Processor) :=
  (reads_pure fun _ _ => rfl).all

/-! ### All types -/

/-- Constructors that are registered read the keys of their type. -/
theorem readsAll_of_mem_builtins {given : Registration ProcessorConstructor}
    {constructor : ProcessorConstructor} (h : given ∈ builtins)
    (hconstructor : given.constructor = some constructor) :
    ReadsAll (keys given.type) (together given.type) constructor := by
  simp only [builtins, List.mem_cons, List.not_mem_nil, or_false] at h
  rcases h with rfl | rfl | rfl | rfl | rfl | rfl | rfl | rfl | rfl | rfl | rfl | rfl <;>
    obtain rfl := Option.some.inj hconstructor
  · exact readsAll_fixed stringDecode
  · exact readsAll_fixed stringEncode
  · exact readsAll_stringFilter
  · exact readsAll_stringTemplate
  · exact readsAll_fixed intParse
  · exact readsAll_fixed floatParse
  · exact readsAll_floatScale
  · exact readsAll_floatClamp
  · exact readsAll_exprEvaluate
  · exact readsAll_fixed jsonDecode
  · exact readsAll_fixed jsonEncode
  · exact readsAll_debugLog

end Switchboard.Processor
