import Switchboard.Expression.Evaluation
import Switchboard.Proofs.Expression.Crash

/-!
# When an evaluation ends the program

An evaluation goes from left to right and stops at the first part that has no value. No operator but
a call ends the program, so that an evaluation does so exactly when it comes to a call that does.
-/

namespace Switchboard.Expression

/-! ## Operators -/

theorem calm_checked (verb sign : String) (a b : Int64) (result : Int) :
    Calm (checked verb sign a b result) := by
  unfold checked
  split
  · exact calm_ok _
  · exact calm_error _

theorem calm_arithmetic (verb sign : String) (onInts : Int → Int → Int)
    (onFloats : Float → Float → Float) (a b : Value) :
    Calm (arithmetic verb sign onInts onFloats a b) := by
  refine (calm_asNumber a).bind fun _ => (calm_asNumber b).bind fun _ => ?_
  split
  · exact calm_checked _ _ _ _ _
  · exact calm_ok _

theorem calm_division (verb sign : String) (onInts : Int → Int → Int)
    (onFloats : Float → Float → Float) (a b : Value) :
    Calm (division verb sign onInts onFloats a b) := by
  refine (calm_asNumber a).bind fun _ => (calm_asNumber b).bind fun _ => ?_
  split
  · split
    · exact calm_error _
    · exact calm_ok _
  · exact calm_ok _

theorem calm_numberOrString (v : Value) : Calm (numberOrString v) := by
  cases v <;> nofun

theorem calm_addOrJoin (a b : Value) : Calm (addOrJoin a b) := by
  refine (calm_numberOrString a).bind fun _ => (calm_numberOrString b).bind fun _ => ?_
  split
  · exact calm_ok _
  · exact calm_error _
  · exact calm_error _
  · exact calm_arithmetic _ _ _ _ _ _

theorem calm_compare (onStrings : String → String → Bool) (onInts : Int64 → Int64 → Bool)
    (onFloats : Float → Float → Bool) (a b : Value) :
    Calm (compare onStrings onInts onFloats a b) := by
  refine (calm_numberOrString a).bind fun _ => (calm_numberOrString b).bind fun _ => ?_
  split
  · exact calm_ok _
  · exact calm_ok _
  · exact (calm_asNumber _).bind fun _ => (calm_asNumber _).bind fun _ => calm_ok _

theorem calm_binary (op : BinaryOp) (a b : Value) : Calm (op.apply a b) := by
  cases op with
  | add => exact calm_addOrJoin a b
  | sub | mul => exact calm_arithmetic _ _ _ _ a b
  | div | mod => exact calm_division _ _ _ _ a b
  | pow => exact (calm_asNumber a).bind fun _ => (calm_asNumber b).bind fun _ => calm_ok _
  | eq | ne => exact calm_ok _
  | gt | lt | ge | le => exact calm_compare _ _ _ a b
  | and | or => exact (calm_asBoolean a).bind fun _ => (calm_asBoolean b).bind fun _ => calm_ok _

theorem calm_opposite (v : Value) : Calm (opposite v) := by
  refine (calm_asNumber v).bind fun _ => ?_
  split
  · split
    · exact calm_ok _
    · exact calm_error _
  · exact calm_ok _

theorem one_eq_crash_iff {f : Value → Except Halt Value} {values : List Value} :
    one f values = .error .crash ↔ ∃ v, values = [v] ∧ f v = .error .crash := by
  unfold one
  split
  case h_1 v => simp
  case h_2 hnot => exact iff_of_false nofun fun ⟨v, hv, _⟩ => hnot v hv

theorem calm_one {f : Value → Except Halt Value} (hf : ∀ v, Calm (f v)) (values : List Value) :
    Calm (one f values) := by
  intro h
  obtain ⟨v, -, hv⟩ := one_eq_crash_iff.1 h
  exact hf v hv

section

variable {lookup : String → Option Value} {op : Operator} {values : List Value}

theorem calm_apply (hop : ∀ name, op ≠ .call name) : Calm (op.apply lookup values) := by
  cases op with
  | call name => exact absurd rfl (hop name)
  | root | tuple | value | write => exact calm_ok _
  | assign | update => exact calm_error _
  | binary op =>
    match values with
    | [a, b] => exact calm_binary op a b
    | [] | [_] | _ :: _ :: _ :: _ => exact calm_error _
  | negate => exact calm_one calm_opposite values
  | not => exact calm_one (fun v => (calm_asBoolean v).bind fun _ => calm_ok _) values
  | chain =>
    rw [Operator.apply]
    split
    · exact calm_ok _
    · exact calm_error _
  | read name =>
    rw [Operator.apply]
    split
    · exact calm_ok _
    · exact calm_error _

/-- An operator ends the program when it is the call of a function that does. -/
theorem apply_eq_crash_iff :
    op.apply lookup values = .error .crash ↔
      ∃ name v, op = .call name ∧ values = [v] ∧ Fatal name v := by
  constructor
  · intro h
    by_cases hop : ∃ name, op = .call name
    · obtain ⟨name, rfl⟩ := hop
      obtain ⟨v, rfl, hv⟩ := one_eq_crash_iff.1 h
      cases hname : function? name with
      | none =>
        rw [hname] at hv
        nomatch hv
      | some f =>
        rw [hname] at hv
        exact ⟨name, v, rfl, rfl, (eq_crash_iff_of_function? hname v).1 hv⟩
    · exact absurd h (calm_apply fun name hname => hop ⟨name, hname⟩)
  · rintro ⟨name, v, rfl, rfl, hv⟩
    obtain ⟨f, hf⟩ := hv.exists_function?
    rw [Operator.apply, one_eq_crash_iff]
    refine ⟨v, rfl, ?_⟩
    rw [hf]
    exact (eq_crash_iff_of_function? hf v).2 hv

end

/-! ## Trees -/

/-- The evaluation of a tree comes to a call of a function. -/
inductive Tree.Calls (lookup : String → Option Value) (name : String) (v : Value) : Tree → Prop where
  | top {parts : List Tree} (hparts : evalAll lookup parts = .ok [v]) :
      Tree.Calls lookup name v (.node (.call name) parts)
  | part (op : Operator) {before : List Tree} {t : Tree} (after : List Tree) {values : List Value}
      (hbefore : evalAll lookup before = .ok values) (ht : t.Calls lookup name v) :
      Tree.Calls lookup name v (.node op (before ++ t :: after))

/-- The functions that an operator calls. -/
def Operator.functions : Operator → List String
  | .call name => [name]
  | _ => []

mutual

/-- The functions that are called somewhere in a tree. -/
def Tree.functions : Tree → List String
  | .node op parts => op.functions ++ allFunctions parts

/-- The functions that are called somewhere in trees. -/
def allFunctions : List Tree → List String
  | [] => []
  | t :: rest => t.functions ++ allFunctions rest

end

/-- The functions that end the program for some values. -/
def fatalFunctions : List String := ["math::abs", "str::substring", "shl", "shr"]

theorem Fatal.mem_fatalFunctions {name : String} {v : Value} (h : Fatal name v) :
    name ∈ fatalFunctions := by
  rcases h with ⟨rfl, -⟩ | ⟨rfl, -⟩ | ⟨rfl | rfl, -⟩
  all_goals simp [fatalFunctions]

theorem functions_subset_allFunctions (before : List Tree) (t : Tree) (after : List Tree) :
    t.functions ⊆ allFunctions (before ++ t :: after) := by
  induction before with
  | nil => exact List.subset_append_left _ _
  | cons first before ih => exact List.subset_append_of_subset_right _ ih

theorem Tree.Calls.mem_functions {lookup : String → Option Value} {name : String} {v : Value}
    {t : Tree} (h : t.Calls lookup name v) : name ∈ t.functions := by
  induction h with
  | top => exact List.mem_append_left _ List.mem_cons_self
  | part op after _ _ ih =>
    exact List.mem_append_right _ (functions_subset_allFunctions _ _ after ih)

section

variable {lookup : String → Option Value} {before after : List Tree} {t : Tree}
variable {values : List Value}

theorem evalAll_cons (t : Tree) (rest : List Tree) :
    evalAll lookup (t :: rest) = do
      let v ← t.eval lookup
      return v :: (← evalAll lookup rest) := by
  rw [evalAll]

/-- Parts end the program when one of them does and those before it have values. -/
theorem evalAll_append_eq_crash (hbefore : evalAll lookup before = .ok values)
    (ht : t.eval lookup = .error .crash) :
    evalAll lookup (before ++ t :: after) = .error .crash := by
  induction before generalizing values with
  | nil => rw [List.nil_append, evalAll_cons, ht]; rfl
  | cons first before ih =>
    rw [evalAll_cons] at hbefore
    cases hfirst : first.eval lookup with
    | error halt =>
      rw [hfirst] at hbefore
      nomatch hbefore
    | ok v =>
      cases hrest : evalAll lookup before with
      | error halt =>
        rw [hfirst, hrest] at hbefore
        nomatch hbefore
      | ok vs =>
        rw [List.cons_append, evalAll_cons, hfirst, ih hrest]
        rfl

theorem eval_eq_crash_of_calls {name : String} {v : Value} (h : t.Calls lookup name v)
    (hv : Fatal name v) : t.eval lookup = .error .crash := by
  induction h with
  | top hparts =>
    have htop : (Operator.call name).apply lookup [v] = .error .crash :=
      apply_eq_crash_iff.2 ⟨name, v, rfl, rfl, hv⟩
    rw [Tree.eval, hparts]
    exact htop
  | part op after hbefore ht ih =>
    rw [Tree.eval, evalAll_append_eq_crash hbefore ih]
    rfl

-- The first part without a value is where an evaluation of parts stops, so that the parts before it
-- have values and it is the one that comes to the call.
mutual

theorem exists_calls_of_eval_eq_crash :
    (t : Tree) → t.eval lookup = .error .crash → ∃ name v, t.Calls lookup name v ∧ Fatal name v
  | .node op parts, h => by
    rw [Tree.eval, bind_eq_crash_iff] at h
    rcases h with h | ⟨values, hparts, h⟩
    · obtain ⟨before, t, after, values, rfl, hbefore, name, v, ht, hv⟩ :=
        exists_calls_of_evalAll_eq_crash parts h
      exact ⟨name, v, .part op after hbefore ht, hv⟩
    · obtain ⟨name, v, rfl, rfl, hv⟩ := apply_eq_crash_iff.1 h
      exact ⟨name, v, .top hparts, hv⟩

theorem exists_calls_of_evalAll_eq_crash :
    (parts : List Tree) → evalAll lookup parts = .error .crash →
      ∃ before t after values, parts = before ++ t :: after ∧ evalAll lookup before = .ok values ∧
        ∃ name v, t.Calls lookup name v ∧ Fatal name v
  | [], h => nomatch h
  | t :: rest, h => by
    rw [evalAll_cons, bind_eq_crash_iff] at h
    rcases h with h | ⟨v, ht, h⟩
    · exact ⟨[], t, rest, [], rfl, rfl, exists_calls_of_eval_eq_crash t h⟩
    · rw [bind_eq_crash_iff] at h
      rcases h with h | ⟨_, _, h⟩
      · obtain ⟨before, part, after, values, rfl, hbefore, hcalls⟩ :=
          exists_calls_of_evalAll_eq_crash rest h
        refine ⟨t :: before, part, after, v :: values, rfl, ?_, hcalls⟩
        rw [evalAll_cons, ht, hbefore]
        rfl
      · nomatch h

end

/-- The evaluation of a tree ends the program when it comes to a call that does. -/
theorem eval_eq_crash_iff :
    t.eval lookup = .error .crash ↔ ∃ name v, t.Calls lookup name v ∧ Fatal name v :=
  ⟨exists_calls_of_eval_eq_crash t, fun ⟨_, _, hcalls, hv⟩ => eval_eq_crash_of_calls hcalls hv⟩

end

end Switchboard.Expression
