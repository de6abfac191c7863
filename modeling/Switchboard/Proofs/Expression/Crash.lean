import Switchboard.Expression.Function
import Switchboard.Proofs.Text.Utf8

/-!
# Functions that end the program

Four of the functions that an expression can call end the program for some values: one that cuts a
text within a character, two that shift an integer by more places than it has, and one that takes
the least integer to its distance from zero. The others give a value or an error for every value.
-/

namespace Switchboard.Expression

/-! ## Evaluations that do not crash -/

/-- An evaluation that does not end the program. -/
def Calm {α : Type} (x : Except Halt α) : Prop := x ≠ .error .crash

section

variable {α β : Type}

theorem calm_ok (a : α) : Calm (.ok a) := nofun

theorem calm_error (e : EvalError) : Calm (.error (.error e) : Except Halt α) := nofun

theorem bind_eq_crash_iff {x : Except Halt α} {f : α → Except Halt β} :
    (x >>= f) = .error .crash ↔ x = .error .crash ∨ ∃ a, x = .ok a ∧ f a = .error .crash := by
  cases x with
  | ok a =>
    constructor
    · exact fun h => .inr ⟨a, rfl, h⟩
    · rintro (h | ⟨a', h, hf⟩)
      · nomatch h
      · obtain rfl := Except.ok.inj h
        exact hf
  | error halt =>
    constructor
    · intro h
      obtain rfl : halt = .crash := Except.error.inj h
      exact .inl rfl
    · rintro (h | ⟨a', h, -⟩)
      · obtain rfl : halt = .crash := Except.error.inj h
        rfl
      · nomatch h

theorem Calm.bind {x : Except Halt α} {f : α → Except Halt β} (hx : Calm x)
    (hf : ∀ a, Calm (f a)) : Calm (x >>= f) := by
  intro h
  rcases bind_eq_crash_iff.1 h with h | ⟨a, -, h⟩
  · exact hx h
  · exact hf a h

theorem Calm.bind_iff {x : Except Halt α} {f : α → Except Halt β} (hx : Calm x) :
    (x >>= f) = .error .crash ↔ ∃ a, x = .ok a ∧ f a = .error .crash := by
  rw [bind_eq_crash_iff]
  exact or_iff_right hx

theorem calm_refuse (v : Value) (expected : Expected) : Calm (v.refuse expected : Except Halt α) :=
  nofun

end

theorem calm_asString (v : Value) : Calm v.asString := by
  cases v <;> nofun

theorem calm_asInt (v : Value) : Calm v.asInt := by
  cases v <;> nofun

theorem calm_asNumber (v : Value) : Calm v.asNumber := by
  cases v <;> nofun

theorem calm_asBoolean (v : Value) : Calm v.asBoolean := by
  cases v <;> nofun

theorem calm_asTuple (v : Value) : Calm v.asTuple := by
  cases v <;> nofun

theorem calm_asPair (v : Value) : Calm v.asPair := by
  unfold Value.asPair
  split <;> nofun

theorem calm_asTriple (v : Value) : Calm v.asTriple := by
  unfold Value.asTriple
  split <;> nofun

/-! ## Functions that do not crash -/

theorem calm_ofNumber (f : Float → Float) (v : Value) : Calm (ofNumber f v) :=
  (calm_asNumber v).bind fun _ => calm_ok _

theorem calm_ofNumbers (f : Float → Float → Float) (v : Value) : Calm (ofNumbers f v) :=
  (calm_asPair v).bind fun ⟨a, b⟩ =>
    (calm_asNumber a).bind fun _ => (calm_asNumber b).bind fun _ => calm_ok _

theorem calm_whether (f : Float → Bool) (v : Value) : Calm (whether f v) :=
  (calm_asNumber v).bind fun _ => calm_ok _

theorem calm_ofString (f : String → String) (v : Value) : Calm (ofString f v) :=
  (calm_asString v).bind fun _ => calm_ok _

theorem calm_ofInts (f : Int64 → Int64 → Int64) (v : Value) : Calm (ofInts f v) :=
  (calm_asPair v).bind fun ⟨a, b⟩ =>
    (calm_asInt a).bind fun _ => (calm_asInt b).bind fun _ => calm_ok _

theorem calm_reduceNumbers (better : Float → Float → Bool) (betterInt : Int64 → Int64 → Bool)
    (int : Int64) (float : Float) (vs : List Value) :
    Calm (reduceNumbers better betterInt int float vs) := by
  induction vs generalizing int float with
  | nil => exact calm_ok _
  | cons v rest ih =>
    cases v with
    | float f => exact ih _ _
    | int i => exact ih _ _
    | string | boolean | tuple | empty => exact calm_refuse _ _

theorem calm_extreme (greatest : Bool) (v : Value) : Calm (extreme greatest v) :=
  (calm_asTuple v).bind fun _ => (calm_reduceNumbers _ _ _ _ _).bind fun _ => calm_ok _

theorem calm_choose (v : Value) : Calm (choose v) :=
  (calm_asTriple v).bind fun ⟨condition, _, _⟩ => (calm_asBoolean condition).bind fun _ => calm_ok _

theorem calm_searchable (v : Value) : Calm (searchable v) := by
  unfold searchable
  split
  · exact calm_ok _
  · exact calm_refuse _ _

theorem calm_contains (v : Value) : Calm (contains v) :=
  (calm_asPair v).bind fun ⟨a, b⟩ =>
    (calm_asTuple a).bind fun _ => (calm_searchable b).bind fun _ => calm_ok _

theorem calm_mapM_searchable (vs : List Value) : Calm (vs.mapM searchable) := by
  induction vs with
  | nil => exact calm_ok _
  | cons v rest ih =>
    rw [List.mapM_cons]
    exact (calm_searchable v).bind fun _ => ih.bind fun _ => calm_ok _

theorem calm_containsAny (v : Value) : Calm (containsAny v) :=
  (calm_asPair v).bind fun ⟨a, b⟩ =>
    (calm_asTuple a).bind fun _ => (calm_asTuple b).bind fun _ =>
      (calm_mapM_searchable _).bind fun _ => calm_ok _

theorem calm_size (v : Value) : Calm (size v) := by
  cases v <;> nofun

theorem calm_index (i : Int64) : Calm (index i) := by
  unfold index
  split
  · exact calm_error _
  · exact calm_ok _

/-! ## Calls that crash -/

/-- A known function never ends the program, unless it is one of four. -/
theorem calm_or_of_function? {name : String} {f : Value → Except Halt Value}
    (h : function? name = some f) :
    (∀ v, Calm (f v)) ∨ name = "math::abs" ∧ f = absolute ∨
      name = "str::substring" ∧ f = substring ∨
      (name = "shl" ∨ name = "shr") ∧ ∃ move, f = shift move := by
  unfold function? at h
  -- One case for each name, and one for all others, which have no function.
  split at h
  all_goals cases h
  all_goals
    first
    | exact .inl (calm_ofNumber _)
    | exact .inl (calm_ofNumbers _)
    | exact .inl (calm_whether _)
    | exact .inl (calm_ofString _)
    | exact .inl (calm_ofInts _)
    | exact .inl (calm_extreme _)
    | exact .inl calm_choose
    | exact .inl calm_contains
    | exact .inl calm_containsAny
    | exact .inl calm_size
    | exact .inl fun v => (calm_asInt v).bind fun _ => calm_ok _
    | exact .inl fun _ => calm_ok _
    | exact .inr (.inl ⟨rfl, rfl⟩)
    | exact .inr (.inr (.inl ⟨rfl, rfl⟩))
    | exact .inr (.inr (.inr ⟨.inl rfl, _, rfl⟩))
    | exact .inr (.inr (.inr ⟨.inr rfl, _, rfl⟩))

/-- A cut of a text that is in range and does not leave whole characters. The cut does not end
before it starts. The cut ends in the text. One of its ends is within a character. -/
structure Splits (s : String) (start stop : Nat) : Prop where
  inOrder : start ≤ stop
  inside : stop ≤ s.utf8ByteSize
  within : ¬ (Utf8.IsBoundary s start ∧ Utf8.IsBoundary s stop)

/-- A text and the bounds of a part that does not consist of whole characters. -/
inductive CutsCharacter : Value → Prop where
  | rest {s : String} {start : Int64} (hstart : 0 ≤ start)
      (h : Splits s start.toInt.toNat s.utf8ByteSize) :
      CutsCharacter (.tuple [.string s, .int start])
  | part {s : String} {start stop : Int64} (hstart : 0 ≤ start) (hstop : 0 ≤ stop)
      (h : Splits s start.toInt.toNat stop.toInt.toNat) :
      CutsCharacter (.tuple [.string s, .int start, .int stop])

/-- An integer and a number of places that it does not have. -/
inductive ShiftsTooFar : Value → Prop where
  | mk (a : Int64) {b : Int64} (hb : b < 0 ∨ 64 ≤ b) : ShiftsTooFar (.tuple [.int a, .int b])

/-- A call that ends the program. -/
def Fatal (name : String) (v : Value) : Prop :=
  name = "math::abs" ∧ v = .int Int64.minValue ∨ name = "str::substring" ∧ CutsCharacter v ∨
    (name = "shl" ∨ name = "shr") ∧ ShiftsTooFar v

theorem absolute_eq_crash_iff {v : Value} :
    absolute v = .error .crash ↔ v = .int Int64.minValue := by
  cases v with
  | int i =>
    rw [absolute, Value.int.injEq]
    split
    case isTrue h => exact iff_of_true rfl h
    case isFalse h => exact iff_of_false nofun h
  | string | float | boolean | tuple | empty => exact iff_of_false nofun nofun

theorem asPair_eq_ok_iff {v a b : Value} : v.asPair = .ok (a, b) ↔ v = .tuple [a, b] := by
  unfold Value.asPair
  split
  · simp
  case h_2 items hpair =>
    refine iff_of_false nofun fun h => hpair a b ?_
    simpa using h
  case h_3 v hpair hitems =>
    exact iff_of_false nofun fun h => hpair a b h

theorem asInt_eq_ok_iff {v : Value} {i : Int64} : v.asInt = .ok i ↔ v = .int i := by
  cases v <;> simp [Value.asInt, Value.refuse]

theorem asString_eq_ok_iff {v : Value} {s : String} : v.asString = .ok s ↔ v = .string s := by
  cases v <;> simp [Value.asString, Value.refuse]

theorem shift_eq_crash_iff {move : Int64 → Int64 → Int64} {v : Value} :
    shift move v = .error .crash ↔ ShiftsTooFar v := by
  have hrange : ∀ a b : Int64, (do
      if b < 0 ∨ 64 ≤ b then throw Halt.crash
      return Value.int (move a b) : Except Halt Value) = .error .crash ↔ b < 0 ∨ 64 ≤ b := by
    intro a b
    split
    case isTrue h => exact iff_of_true rfl h
    case isFalse h => exact iff_of_false nofun h
  simp only [shift, (calm_asPair _).bind_iff, (calm_asInt _).bind_iff, Prod.exists,
    asPair_eq_ok_iff, asInt_eq_ok_iff, hrange]
  constructor
  · rintro ⟨_, _, rfl, a, rfl, b, rfl, hb⟩
    exact ⟨a, hb⟩
  · rintro ⟨a, hb⟩
    exact ⟨_, _, rfl, a, rfl, _, rfl, hb⟩

theorem index_eq_ok_iff {i : Int64} {n : Nat} : index i = .ok n ↔ 0 ≤ i ∧ n = i.toInt.toNat := by
  rw [index]
  split
  case isTrue h => exact iff_of_false nofun fun ⟨h', _⟩ => Int64.not_lt.2 h' h
  case isFalse h => simp [Int64.not_lt.1 h, eq_comm]

theorem cut_eq_crash_iff {s : String} {start stop : Nat} :
    cut s start stop = .error .crash ↔ Splits s start stop := by
  have hlength := Utf8.length_encode s
  rw [cut]
  split
  case isTrue h =>
    refine iff_of_false nofun fun ⟨hle, hstop, _⟩ => ?_
    omega
  case isFalse h =>
    have hle : start ≤ stop := by omega
    have hstop : stop ≤ (Utf8.encode s).length := by omega
    have hfront := Utf8.exists_decode_take_iff (Nat.le_trans hle hstop)
    split
    case h_1 first part hfirst hpart =>
      have hstart := hfront.1 ⟨first, hfirst⟩
      have hend := (Utf8.exists_decode_drop_take_iff hstart hle hstop).1 ⟨part, hpart⟩
      exact iff_of_false nofun fun hsplits => hsplits.within ⟨hstart, hend⟩
    case h_2 hnot =>
      refine iff_of_true rfl ⟨hle, hlength ▸ hstop, fun ⟨hstart, hend⟩ => ?_⟩
      obtain ⟨first, hfirst⟩ := hfront.2 hstart
      obtain ⟨part, hpart⟩ := (Utf8.exists_decode_drop_take_iff hstart hle hstop).2 hend
      exact hnot first part hfirst hpart

theorem substring_eq_crash_iff {v : Value} :
    substring v = .error .crash ↔ CutsCharacter v := by
  match v with
  | .tuple [x, first] =>
    have hdo : substring (.tuple [x, first]) = (do
        let s ← x.asString
        let start ← index (← first.asInt)
        cut s start s.utf8ByteSize) := rfl
    simp only [hdo, (calm_asString _).bind_iff, (calm_asInt _).bind_iff, (calm_index _).bind_iff,
      asString_eq_ok_iff, asInt_eq_ok_iff, index_eq_ok_iff, cut_eq_crash_iff]
    constructor
    · rintro ⟨s, rfl, start, rfl, _, ⟨hstart, rfl⟩, h⟩
      exact .rest hstart h
    · rintro ⟨hstart, h⟩
      exact ⟨_, rfl, _, rfl, _, ⟨hstart, rfl⟩, h⟩
  | .tuple [x, first, last] =>
    have hdo : substring (.tuple [x, first, last]) = (do
        let s ← x.asString
        let start ← index (← first.asInt)
        let stop ← index (← last.asInt)
        cut s start stop) := rfl
    simp only [hdo, (calm_asString _).bind_iff, (calm_asInt _).bind_iff, (calm_index _).bind_iff,
      asString_eq_ok_iff, asInt_eq_ok_iff, index_eq_ok_iff, cut_eq_crash_iff]
    constructor
    · rintro ⟨s, rfl, start, rfl, _, ⟨hstart, rfl⟩, stop, rfl, _, ⟨hstop, rfl⟩, h⟩
      exact .part hstart hstop h
    · rintro (_ | ⟨hstart, hstop, h⟩)
      exact ⟨_, rfl, _, rfl, _, ⟨hstart, rfl⟩, _, rfl, _, ⟨hstop, rfl⟩, h⟩
  | .tuple [] | .tuple [_] | .tuple (_ :: _ :: _ :: _ :: _) => exact iff_of_false nofun nofun
  | .string _ | .float _ | .int _ | .boolean _ | .empty => exact iff_of_false nofun nofun

/-- A known function ends the program for exactly the values that the calls say. -/
theorem eq_crash_iff_of_function? {name : String} {f : Value → Except Halt Value}
    (h : function? name = some f) (v : Value) : f v = .error .crash ↔ Fatal name v := by
  constructor
  · intro hv
    rcases calm_or_of_function? h with hcalm | ⟨rfl, rfl⟩ | ⟨rfl, rfl⟩ | ⟨hname, move, rfl⟩
    · exact absurd hv (hcalm v)
    · exact .inl ⟨rfl, absolute_eq_crash_iff.1 hv⟩
    · exact .inr (.inl ⟨rfl, substring_eq_crash_iff.1 hv⟩)
    · exact .inr (.inr ⟨hname, shift_eq_crash_iff.1 hv⟩)
  · rintro (⟨rfl, hv⟩ | ⟨rfl, hv⟩ | ⟨rfl | rfl, hv⟩)
    · obtain rfl := Option.some.inj h
      exact absolute_eq_crash_iff.2 hv
    · obtain rfl := Option.some.inj h
      exact substring_eq_crash_iff.2 hv
    · obtain rfl := Option.some.inj h
      exact shift_eq_crash_iff.2 hv
    · obtain rfl := Option.some.inj h
      exact shift_eq_crash_iff.2 hv

theorem Fatal.exists_function? {name : String} {v : Value} (h : Fatal name v) :
    ∃ f, function? name = some f := by
  rcases h with ⟨rfl, -⟩ | ⟨rfl, -⟩ | ⟨rfl | rfl, -⟩
  all_goals exact ⟨_, rfl⟩

end Switchboard.Expression
