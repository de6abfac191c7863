import Switchboard.Params

/-!
# What the getters answer

A getter looks up one key and takes its value for one of a few types. So its answer is a function of
the value alone: which values it accepts is said here by a relation, and why it refuses the others by
the error.
-/

namespace Switchboard.Params

/-- What a key can be asked for. -/
inductive Getter : Type → Type where
  | string : Getter String
  | int : Getter Int64
  | uint : Getter UInt64
  | float : Getter Float
  | bool : Getter Bool
  | array : Getter (List Json)
  | port : Getter UInt16

namespace Getter

variable {α : Type}

/-- What the getter answers for a key. -/
def get : Getter α → Params → String → Except ParamError α
  | .string => getString
  | .int => getInt
  | .uint => getUint
  | .float => getFloat
  | .bool => getBool
  | .array => getArray
  | .port => getPort

/-- The getters that take a default, with the answer for a table, a key and a default. -/
inductive Defaults :
    {α : Type} → Getter α → (Params → String → α → Except ParamError α) → Prop where
  | string : Defaults .string getStringD
  | int : Defaults .int getIntD
  | uint : Defaults .uint getUintD
  | float : Defaults .float getFloatD
  | bool : Defaults .bool getBoolD
  | port : Defaults .port getPortD

/-- The values that the getter accepts, and what it takes them for. -/
def Accepts : Getter α → Json → α → Prop
  | .string, v, s => v = .string s
  | .int, v, n => v = .ofInt n.toInt
  | .uint, v, n => v = .ofInt n.toNat
  | .float, v, f => ∃ n, v = .number n ∧ n.toFloat = f
  | .bool, v, b => v = .bool b
  | .array, v, items => v = .array items
  | .port, v, n => v = .ofInt n.toNat

/-- What a value is said not to be when the getter refuses it. -/
def expected : Getter α → ParamKind
  | .string => .string
  | .int => .int
  | .uint => .uint
  | .float => .float
  | .bool => .bool
  | .array => .array
  | .port => .uint

/-- Why a value is no port: it is no integer without a sign, or one that is too large. -/
def portRefusal (key : String) : Json → ParamError
  | .number (.integer i) =>
    if 0x10000 ≤ i ∧ i ≤ 0xFFFFFFFFFFFFFFFF then .invalid key s!"{i.toNat} is not a valid port"
    else .wrongType key .uint
  | _ => .wrongType key .uint

/-- Why the getter refuses a value that it does not accept. -/
def refusal : Getter α → String → Json → ParamError
  | .port, key, v => portRefusal key v
  | g, key, _ => .wrongType key g.expected

/-- The value as a port number, if it is one. -/
def port? (v : Json) : Option UInt16 :=
  (uint64? v).bind fun n => if n.toNat < 65536 then some n.toUInt16 else none

/-- What the getter takes a value for, if it accepts it. -/
def view : Getter α → Json → Option α
  | .string => Json.asString?
  | .int => int64?
  | .uint => uint64?
  | .float => float?
  | .bool => bool?
  | .array => array?
  | .port => port?

/-- What the getter answers for a key that is bound to a value, or to none. -/
def answer (g : Getter α) (key : String) : Option Json → Except ParamError α
  | none => .error (.notFound key)
  | some v =>
    match g.view v with
    | some a => .ok a
    | none => .error (g.refusal key v)

variable {g : Getter α} {p : Params} {key other : String} {v : Json} {last : Option Json} {a : α}
variable {i : Int}

/-! ## Values -/

theorem int64?_eq_some_iff {n : Int64} : int64? v = some n ↔ v = .ofInt n.toInt := by
  constructor
  · intro h
    unfold int64? at h
    split at h
    · split at h
      · next i hi =>
        rw [← Option.some.inj h, Int64.toInt_ofInt_of_le (by omega) (by omega)]
        rfl
      · nomatch h
    · nomatch h
  · rintro rfl
    have hle := n.le_toInt
    have hlt := n.toInt_lt
    rw [Json.ofInt, int64?, if_pos (by omega), Int64.ofInt_toInt]

theorem uint64?_eq_some_iff {n : UInt64} : uint64? v = some n ↔ v = .ofInt n.toNat := by
  constructor
  · intro h
    unfold uint64? at h
    split at h
    · split at h
      · next i hi =>
        have hlt : i.toNat < 2 ^ 64 := by omega
        rw [← Option.some.inj h, UInt64.toNat_ofNat_of_lt' hlt, Int.toNat_of_nonneg hi.1]
        rfl
      · nomatch h
    · nomatch h
  · rintro rfl
    have hlt := n.toNat_lt
    rw [Json.ofInt, uint64?, if_pos (by omega), Int.toNat_natCast, UInt64.ofNat_toNat]

theorem float?_eq_some_iff {f : Float} : float? v = some f ↔ ∃ n, v = .number n ∧ n.toFloat = f := by
  cases v <;> simp [float?]

theorem port?_eq_some_iff {n : UInt16} : port? v = some n ↔ v = .ofInt n.toNat := by
  simp only [port?, Option.bind_eq_some_iff, uint64?_eq_some_iff]
  constructor
  · rintro ⟨m, rfl, h⟩
    split at h
    · next hlt => rw [← Option.some.inj h, UInt64.toNat_toUInt16, Nat.mod_eq_of_lt hlt]
    · nomatch h
  · rintro rfl
    have hlt := n.toNat_lt
    refine ⟨n.toUInt64, by rw [UInt16.toNat_toUInt64], ?_⟩
    rw [if_pos (by rwa [UInt16.toNat_toUInt64]), UInt16.toUInt16_toUInt64]

/-- A getter takes for something exactly what it accepts. -/
theorem view_eq_some_iff : g.view v = some a ↔ g.Accepts v a := by
  cases g with
  | string => cases v <;> simp [view, Accepts, Json.asString?]
  | int => exact int64?_eq_some_iff
  | uint => exact uint64?_eq_some_iff
  | float => exact float?_eq_some_iff
  | bool => cases v <;> simp [view, Accepts, bool?]
  | array => cases v <;> simp [view, Accepts, array?]
  | port => exact port?_eq_some_iff

theorem view_eq_none_iff : g.view v = none ↔ ∀ a, ¬ g.Accepts v a := by
  rw [Option.eq_none_iff_forall_ne_some]
  exact forall_congr' fun a => not_congr view_eq_some_iff

/-! ## Answers -/

theorem getAs_eq (expected : ParamKind) (view : Json → Option α) :
    p.getAs key expected view =
      match p.fields.find? key with
      | none => .error (.notFound key)
      | some v =>
        match view v with
        | some a => .ok a
        | none => .error (.wrongType key expected) := by
  unfold getAs Params.get
  cases p.fields.find? key with
  | none => rfl
  | some v => cases h : view v <;> simp [bind, Except.bind, h] <;> rfl

theorem portRefusal_of_none (h : uint64? v = none) : portRefusal key v = .wrongType key .uint := by
  unfold portRefusal
  split
  · next i =>
    refine if_neg fun hi => ?_
    rw [uint64?, if_pos (by omega)] at h
    exact absurd h (Option.some_ne_none _)
  · rfl

theorem portRefusal_of_le {n : UInt64} (h : 65536 ≤ n.toNat) :
    portRefusal key (.ofInt n.toNat) = .invalid key s!"{n.toNat} is not a valid port" := by
  have hlt := n.toNat_lt
  rw [Json.ofInt, portRefusal, if_pos (by omega), Int.toNat_natCast]

theorem getPort_eq : p.getPort key = Getter.port.answer key (p.fields.find? key) := by
  have hport : p.getPort key = (p.getUint key).bind fun n =>
      if n.toNat < 65536 then .ok n.toUInt16
      else .error (.invalid key s!"{n.toNat} is not a valid port") := rfl
  rw [hport, getUint, getAs_eq]
  cases p.fields.find? key with
  | none => rfl
  | some v =>
    cases h : uint64? v with
    | none =>
      simp only [answer, view, port?, h, Option.bind_none, refusal, portRefusal_of_none h,
        Except.bind]
    | some n =>
      simp only [answer, view, port?, h, Option.bind_some, Except.bind]
      by_cases hlt : n.toNat < 65536
      · rw [if_pos hlt, if_pos hlt]
      · rw [if_neg hlt, if_neg hlt, refusal, uint64?_eq_some_iff.1 h,
          portRefusal_of_le (Nat.le_of_not_lt hlt)]

/-- The answer depends on the value of the key alone. -/
theorem get_eq_answer (g : Getter α) (p : Params) (key : String) :
    g.get p key = g.answer key (p.fields.find? key) := by
  cases g with
  | port => exact getPort_eq
  | string | int | uint | float | bool | array => exact getAs_eq _ _

/-! ## Answers by the value -/

theorem refusal_ne_notFound : g.refusal key v ≠ .notFound other := by
  cases g with
  | port =>
    rw [refusal]
    unfold portRefusal
    split
    · split <;> simp
    · simp
  | string | int | uint | float | bool | array => simp [refusal]

theorem answer_eq_notFound_iff :
    g.answer key last = .error (.notFound other) ↔ last = none ∧ key = other := by
  cases last with
  | none => simp [answer]
  | some v =>
    cases h : g.view v with
    | some a => simp [answer, h]
    | none => simp [answer, h, refusal_ne_notFound]

theorem answer_eq_ok_iff {a : α} :
    g.answer key last = .ok a ↔ ∃ v, last = some v ∧ g.Accepts v a := by
  cases last with
  | none => exact iff_of_false nofun nofun
  | some v =>
    simp only [answer, Option.some.injEq, exists_eq_left', ← view_eq_some_iff]
    cases g.view v with
    | some b => rw [Except.ok.injEq, Option.some.injEq]
    | none => exact iff_of_false nofun nofun

theorem answer_of_refused (h : ∀ a, ¬ g.Accepts v a) :
    g.answer key (some v) = .error (g.refusal key v) := by
  simp only [answer, view_eq_none_iff.2 h]

/-- A default is taken when the key is absent, and then only. -/
theorem orDefault_answer (d : α) :
    orDefault (g.answer key last) d = if last.isNone then .ok d else g.answer key last := by
  cases last with
  | none => rfl
  | some v =>
    rw [Option.isNone_some, if_neg Bool.false_ne_true]
    unfold orDefault
    split
    · next h => nomatch (answer_eq_notFound_iff.1 h).1
    · rfl

theorem Defaults.eq {getD : Params → String → α → Except ParamError α} (h : g.Defaults getD)
    (d : α) : getD p key d = orDefault (g.get p key) d := by
  cases h <;> rfl

end Getter

end Switchboard.Params
