import Switchboard.Processor.Builtin
import Switchboard.Proofs.Expression.Evaluation
import Switchboard.Proofs.Registry
import Switchboard.Proofs.Route.Processors

/-!
# Steps that end the task that runs them

A step of a type that comes with the library ends the task only when it evaluates an expression and
the evaluation comes to a call that ends the program. That a number cannot be kept within bounds
never happens, since the bounds are looked at when the step is built.
-/

namespace Switchboard

/-! ## The order of doubles -/

namespace Binary64

open Float.Model (UnpackedFloat)

theorem exists_compare_swap {a b : UnpackedFloat} (ha : a.isNaN = false) (hb : b.isNaN = false) :
    ∃ o, b.compare a = some o ∧ a.compare b = some o.swap := by
  have hswap : ∀ (e e' : Int) (m m' : Nat),
      (compare e e').then (compare m m') = ((compare e' e).then (compare m' m)).swap := by
    intro e e' m m'
    rw [Ordering.swap_then, Int.compare_swap, Nat.compare_swap]
  cases a with
  | notANumber => nomatch ha
  | infinity s =>
    cases b with
    | notANumber => nomatch hb
    | infinity s' => cases s <;> cases s' <;> exact ⟨_, rfl, rfl⟩
    | zero | finite => cases s <;> exact ⟨_, rfl, rfl⟩
  | zero =>
    cases b with
    | notANumber => nomatch hb
    | infinity s' | finite s' => cases s' <;> exact ⟨_, rfl, rfl⟩
    | zero => exact ⟨_, rfl, rfl⟩
  | finite s m e =>
    cases b with
    | notANumber => nomatch hb
    | infinity s' => cases s' <;> exact ⟨_, rfl, rfl⟩
    | zero => cases s <;> exact ⟨_, rfl, rfl⟩
    | finite s' m' e' =>
      -- Only numbers of one sign are compared by their parts, negative ones the other way.
      cases s with
      | positive =>
        cases s' with
        | positive => exact ⟨_, rfl, congrArg some (hswap e e' m m')⟩
        | negative => exact ⟨_, rfl, rfl⟩
      | negative =>
        cases s' with
        | positive => exact ⟨_, rfl, rfl⟩
        | negative => exact ⟨_, rfl, congrArg (fun o : Ordering => some o.swap) (hswap e e' m m')⟩

/-- Of two doubles that are numbers, one is at most the other. -/
theorem le_of_not_lt {a b : Float} (ha : a.isNaN = false) (hb : b.isNaN = false) (h : ¬ b < a) :
    a ≤ b := by
  obtain ⟨o, hba, hab⟩ := exists_compare_swap ha hb
  have hlt : b.lt a = true ↔ o = .lt := by
    rw [Float.lt, decide_eq_true_iff]
    change (UnpackedFloat.compare b.toModel.unpack a.toModel.unpack == some .lt) = true ↔ _
    rw [hba]
    simp
  have hle : a.le b = true ↔ o.swap.isLE = true := by
    rw [Float.le, decide_eq_true_iff]
    change Option.any Ordering.isLE (UnpackedFloat.compare a.toModel.unpack b.toModel.unpack) =
      true ↔ _
    rw [hab]
    rfl
  refine hle.2 ?_
  cases o with
  | lt => exact absurd (hlt.2 rfl) h
  | eq | gt => rfl

end Binary64

/-! ## One step -/

theorem Processed.ofView_ne_crashed {α : Type} {view : Except PayloadError α} {f : α → Processed}
    (hf : ∀ a, f a ≠ .crashed) : ofView view f ≠ .crashed := by
  cases view with
  | ok a => exact hf a
  | error e => nofun

namespace Processor

open Expression (Tree Fatal eval_eq_crash_iff)

/-- A step that does not end the task that runs it. -/
def Lasting (processor : Processor) : Prop := ∀ p, (processor.process p).1 ≠ .crashed

theorem lasting_quiet {type : String} {f : Payload → Processed} (hf : ∀ p, f p ≠ .crashed) :
    (quiet type f).Lasting := hf

theorem parseWith_ne_crashed {α : Type} (read : List Char → Except String α) (kind : String)
    (f : α → Payload) (p : Payload) : parseWith read kind f p ≠ .crashed := by
  refine Processed.ofView_ne_crashed fun s => ?_
  split <;> nofun

theorem decodeText_ne_crashed (p : Payload) : decodeText p ≠ .crashed := by
  unfold decodeText
  split
  · nofun
  · split <;> nofun
  · nofun

theorem encodeText_ne_crashed (p : Payload) : encodeText p ≠ .crashed := by
  cases p <;> nofun

theorem filterText_ne_crashed (pattern : Pattern.Expr) (p : Payload) :
    filterText pattern p ≠ .crashed := by
  refine Processed.ofView_ne_crashed fun s => ?_
  split <;> nofun

theorem readJson_ne_crashed (document : Bytes) : readJson document ≠ .crashed := by
  unfold readJson
  split <;> nofun

theorem decodeJson_ne_crashed (p : Payload) : decodeJson p ≠ .crashed := by
  cases p with
  | text s => exact readJson_ne_crashed _
  | bytes b => exact readJson_ne_crashed b
  | int | float | bool | json => nofun

theorem encodeJson_ne_crashed (p : Payload) : encodeJson p ≠ .crashed := by
  unfold encodeJson
  split
  case h_5 => split <;> nofun
  all_goals nofun

theorem lasting_of_stringFilter {params : Params} {processor : Processor}
    (h : stringFilter params = .ok processor) : processor.Lasting := by
  obtain ⟨text, -, h⟩ := Except.exists_of_bind_eq_ok h
  split at h
  · obtain rfl := Except.ok.inj h
    exact lasting_quiet (filterText_ne_crashed _)
  · nomatch h

theorem lasting_of_stringTemplate {params : Params} {processor : Processor}
    (h : stringTemplate params = .ok processor) : processor.Lasting := by
  obtain ⟨template, -, h⟩ := Except.exists_of_bind_eq_ok h
  obtain rfl := Except.ok.inj h
  exact lasting_quiet nofun

theorem lasting_of_floatScale {params : Params} {processor : Processor}
    (h : floatScale params = .ok processor) : processor.Lasting := by
  obtain ⟨scale, -, h⟩ := Except.exists_of_bind_eq_ok h
  obtain rfl := Except.ok.inj h
  exact lasting_quiet fun p => Processed.ofView_ne_crashed nofun

/-- Bounds that have been accepted are numbers in order, so that there is a nearest number. -/
theorem lasting_of_floatClamp {params : Params} {processor : Processor}
    (h : floatClamp params = .ok processor) : processor.Lasting := by
  obtain ⟨min, -, h⟩ := Except.exists_of_bind_eq_ok h
  obtain ⟨max, -, h⟩ := Except.exists_of_bind_eq_ok h
  simp only at h
  split at h
  · obtain ⟨_, h, -⟩ := Except.exists_of_bind_eq_ok h
    nomatch h
  · next haccepted =>
    obtain rfl := Except.ok.inj h
    simp only [Bool.or_eq_true, decide_eq_true_eq, not_or, Bool.not_eq_true] at haccepted
    obtain ⟨⟨hmin, hmax⟩, hlt⟩ := haccepted
    refine lasting_quiet fun p => Processed.ofView_ne_crashed fun v => ?_
    rw [clamp?, if_pos (Binary64.le_of_not_lt hmin hmax hlt)]
    nofun

theorem lasting_of_debugLog {params : Params} {processor : Processor}
    (h : debugLog params = .ok processor) : processor.Lasting := by
  unfold debugLog at h
  split at h
  · obtain rfl := Except.ok.inj h
    nofun
  · obtain rfl := Except.ok.inj h
    nofun
  · nomatch h

theorem lookup_exprEvaluate :
    Registries.builtins.processors.lookup "expr.evaluate" = some exprEvaluate := rfl

/-- A step of a type for use lasts, unless it evaluates an expression. -/
theorem lasting_of_lookup {type : String} {constructor : ProcessorConstructor}
    (h : Registries.builtins.processors.lookup type = some constructor)
    (htype : type ≠ "expr.evaluate") {params : Params} {processor : Processor}
    (hprocessor : constructor params = .ok processor) : processor.Lasting := by
  obtain ⟨given, hgiven, rfl, hconstructor⟩ := Registries.mem_of_lookup_builtins h
  have hfixed : ∀ {other : Processor}, other.Lasting → given = fixed other →
      processor.Lasting := by
    rintro other hlasting rfl
    obtain rfl := Option.some.inj hconstructor
    obtain rfl := Except.ok.inj hprocessor
    exact hlasting
  have hof : ∀ {name : String} {build : ProcessorConstructor},
      (∀ {params processor}, build params = .ok processor → processor.Lasting) →
        given = .of name build → processor.Lasting := by
    rintro name build hlasting rfl
    obtain rfl := Option.some.inj hconstructor
    exact hlasting hprocessor
  simp only [builtins, List.mem_cons, List.not_mem_nil, or_false] at hgiven
  rcases hgiven with h | h | h | h | h | h | h | h | rfl | h | h | h
  · exact hfixed (lasting_quiet decodeText_ne_crashed) h
  · exact hfixed (lasting_quiet encodeText_ne_crashed) h
  · exact hof lasting_of_stringFilter h
  · exact hof lasting_of_stringTemplate h
  · exact hfixed (lasting_quiet (parseWith_ne_crashed _ _ _)) h
  · exact hfixed (lasting_quiet (parseWith_ne_crashed _ _ _)) h
  · exact hof lasting_of_floatScale h
  · exact hof lasting_of_floatClamp h
  · exact absurd rfl htype
  · exact hfixed (lasting_quiet decodeJson_ne_crashed) h
  · exact hfixed (lasting_quiet encodeJson_ne_crashed) h
  · exact hof lasting_of_debugLog h

/-! ## Expressions -/

namespace Formula

theorem result_ne_crashed (source : String) (v : Expression.Value) :
    result source v ≠ .crashed := by
  cases v <;> nofun

/-- A formula ends the task for a payload when its evaluation comes to a call that ends the
program. -/
theorem process_eq_crashed_iff {formula : Formula} {p : Payload} :
    formula.process p = .crashed ↔ ∃ value, bind p = .ok value ∧
      ∃ name v, formula.tree.Calls (lookup value) name v ∧ Fatal name v := by
  unfold process
  cases hbind : bind p with
  | error e => exact iff_of_false nofun nofun
  | ok value =>
    simp only [Processed.ofView, Except.ok.injEq, exists_eq_left', ← eval_eq_crash_iff]
    cases formula.tree.eval (lookup value) with
    | ok v => exact iff_of_false (result_ne_crashed _ v) nofun
    | error halt =>
      cases halt with
      | error e => exact iff_of_false nofun nofun
      | crash => exact iff_of_true rfl rfl

theorem of_ofText {source : String} {formula : Formula} (h : ofText source = .ok formula) :
    formula.source = source ∧ Tree.ofText source = .ok formula.tree := by
  unfold ofText at h
  obtain ⟨tree, htree, h⟩ := Except.exists_of_bind_eq_ok h
  obtain rfl := Except.ok.inj h
  exact ⟨rfl, htree⟩

theorem of_exprEvaluate {params : Params} {processor : Processor}
    (h : exprEvaluate params = .ok processor) :
    ∃ formula : Formula, params.getString "expression" = .ok formula.source ∧
      Tree.ofText formula.source = .ok formula.tree ∧ processor = formula.toProcessor := by
  obtain ⟨source, hsource, h⟩ := Except.exists_of_bind_eq_ok h
  split at h
  · next formula hformula =>
    obtain rfl := Except.ok.inj h
    obtain ⟨rfl, htree⟩ := of_ofText hformula
    exact ⟨formula, Except.of_mapError_eq_ok hsource, htree, rfl⟩
  · nomatch h

end Formula

end Processor

/-! ## Steps of a configuration -/

namespace ProcessorConfig

open Expression (Tree Fatal)

/-- The entry is an expression that reads as a tree. -/
def IsExpression (given : ProcessorConfig) (tree : Tree) : Prop :=
  given.type = "expr.evaluate" ∧ ∃ source, given.params.getString "expression" = .ok source ∧
    Tree.ofText source = .ok tree

/-- The entry is an expression whose evaluation for a payload comes to a call that ends the
program. -/
def EndsTask (given : ProcessorConfig) (p : Payload) : Prop :=
  ∃ tree value name v, given.IsExpression tree ∧ Processor.Formula.bind p = .ok value ∧
    tree.Calls (Processor.Formula.lookup value) name v ∧ Fatal name v

/-- A step of a type for use ends the task that runs it when its entry says so. -/
theorem crashed_iff {given : ProcessorConfig} {processor : Processor}
    (h : Registries.builtins.processors.Makes given processor) (p : Payload) :
    (processor.process p).1 = .crashed ↔ given.EndsTask p := by
  obtain ⟨constructor, hlookup, hmade⟩ := h
  by_cases htype : given.type = "expr.evaluate"
  · rw [htype, Processor.lookup_exprEvaluate] at hlookup
    obtain rfl := Option.some.inj hlookup
    obtain ⟨⟨source, tree⟩, hsource, htree, rfl⟩ := Processor.Formula.of_exprEvaluate hmade
    change Processor.Formula.process ⟨source, tree⟩ p = .crashed ↔ _
    rw [Processor.Formula.process_eq_crashed_iff]
    constructor
    · rintro ⟨value, hvalue, name, v, hcalls, hv⟩
      exact ⟨tree, value, name, v, ⟨htype, source, hsource, htree⟩, hvalue, hcalls, hv⟩
    · rintro ⟨tree', value, name, v, ⟨-, source', hsource', htree'⟩, hvalue, hcalls, hv⟩
      obtain rfl := Except.ok.inj (hsource.symm.trans hsource')
      obtain rfl := Except.ok.inj (htree.symm.trans htree')
      exact ⟨value, hvalue, name, v, hcalls, hv⟩
  · refine iff_of_false (Processor.lasting_of_lookup hlookup htype hmade p) ?_
    rintro ⟨_, _, _, _, ⟨hexpression, -⟩, -⟩
    exact htype hexpression

end ProcessorConfig

end Switchboard
