import Switchboard.Proofs.Params.Getters

/-!
# Reading keys in order

Who is built from parameters knows some keys and looks at them in order. The first one whose value
cannot be accepted, or which is absent and must be there, is the reason for a refusal, and no other
key makes a difference. Both go together from the reading of single keys to that of several.
-/

namespace Switchboard

open Params (Getter)

/-- A key that is known, with the reason for which its value, or the absence of one, is refused. The
reason does not depend on other keys. -/
structure Key (ε : Type) where
  name : String
  fault? : Option Json → Option ε

namespace Key

variable {ε α : Type}

/-- A key that must be there. The getter must accept its value, and what the getter takes it for may
be refused for a reason of its own. -/
def required (wrap : ParamError → ε) (name : String) (g : Getter α)
    (refuse : α → Option ε := fun _ => none) : Key ε where
  name := name
  fault? v :=
    match g.answer name v with
    | .ok a => refuse a
    | .error e => some (wrap e)

/-- A key that may be absent. -/
def optional (wrap : ParamError → ε) (name : String) (g : Getter α)
    (refuse : α → Option ε := fun _ => none) : Key ε where
  name := name
  fault?
    | none => none
    | some v => (required wrap name g refuse).fault? (some v)

/-- The reason for which a table is refused because of the key. -/
def faultIn? (k : Key ε) (p : Params) : Option ε := k.fault? (p.fields.find? k.name)

/-- The reason of the first key that has one. -/
def firstFault? (keys : List (Key ε)) (p : Params) : Option ε := keys.findSome? (·.faultIn? p)

/-- Two tables have the same values for the keys, and lack the same of them. -/
def Agree (keys : List (Key ε)) (p q : Params) : Prop :=
  ∀ k ∈ keys, p.fields.find? k.name = q.fields.find? k.name

/-- `f` looks at the keys in order and at nothing else, and fails at the first one that has a reason. -/
structure Reads (keys : List (Key ε)) (f : Params → Except ε α) : Prop where
  agree {p q : Params} (h : Agree keys p q) : f p = f q
  error_iff (p : Params) (e : ε) : f p = .error e ↔ firstFault? keys p = some e

/-- `f` looks at the keys in order and at nothing else. It fails at the first one that has a reason,
and then for what their values are together. -/
structure ReadsAll (keys : List (Key ε)) (together : Params → Option ε) (f : Params → Except ε α) :
    Prop where
  agree {p q : Params} (h : Agree keys p q) : f p = f q
  error_iff (p : Params) (e : ε) : f p = .error e ↔
    (∃ before k after, keys = before ++ k :: after ∧ k.faultIn? p = some e ∧
      ∀ other ∈ before, other.faultIn? p = none) ∨
    (∀ k ∈ keys, k.faultIn? p = none) ∧ together p = some e

variable {β γ : Type} {keys keys' : List (Key ε)} {f : Params → Except ε α} {p q : Params}
variable {name : String} {g : Getter α} {refuse : α → Option ε} {check : α → Except ε β}

/-! ## Single keys -/

theorem Agree.of_cons {k : Key ε} (h : Agree (k :: keys) p q) :
    p.fields.find? k.name = q.fields.find? k.name := h k List.mem_cons_self

theorem Agree.left (h : Agree (keys ++ keys') p q) : Agree keys p q :=
  fun k hk => h k (List.mem_append_left _ hk)

theorem Agree.right (h : Agree (keys ++ keys') p q) : Agree keys' p q :=
  fun k hk => h k (List.mem_append_right _ hk)

theorem firstFault?_singleton (k : Key ε) (p : Params) : firstFault? [k] p = k.faultIn? p := by
  rw [firstFault?, List.findSome?_cons]
  cases k.faultIn? p <;> rfl

theorem faultIn?_required (wrap : ParamError → ε) :
    (required wrap name g refuse).faultIn? p =
      match g.get p name with
      | .ok a => refuse a
      | .error e => some (wrap e) := by
  rw [g.get_eq_answer]
  rfl

theorem faultIn?_optional (wrap : ParamError → ε) :
    (optional wrap name g refuse).faultIn? p =
      match g.get p name with
      | .ok a => refuse a
      | .error (.notFound _) => none
      | .error e => some (wrap e) := by
  rw [g.get_eq_answer]
  change (optional wrap name g refuse).fault? (p.fields.find? name) = _
  cases hv : p.fields.find? name with
  | none => rfl
  | some v =>
    change (match g.answer name (some v) with
      | .ok a => refuse a
      | .error e => some (wrap e)) = _
    cases ha : g.answer name (some v) with
    | ok a => rfl
    | error e =>
      cases e with
      | notFound other => nomatch (Getter.answer_eq_notFound_iff.1 ha).1
      | wrongType | invalid => rfl

/-- What a getter takes the value of a key for is looked at before it is used. -/
theorem reads_checked (wrap : ParamError → ε) (name : String) (g : Getter α)
    (hcheck : ∀ a e, check a = .error e ↔ refuse a = some e) :
    Reads [required wrap name g refuse] fun p => (g.get p name).mapError wrap >>= check where
  agree {p q} h := by
    have hname : p.fields.find? name = q.fields.find? name := h.of_cons
    simp only [g.get_eq_answer, hname]
  error_iff p e := by
    rw [firstFault?_singleton, faultIn?_required]
    cases g.get p name with
    | ok a => exact hcheck a e
    | error why =>
      change (Except.error (wrap why) : Except ε β) = .error e ↔ some (wrap why) = some e
      simp

theorem reads_required (wrap : ParamError → ε) (name : String) (g : Getter α) :
    Reads [required wrap name g] fun p => (g.get p name).mapError wrap := by
  have h : Reads [required wrap name g] fun p => (g.get p name).mapError wrap >>= pure :=
    reads_checked wrap name g (by simp [pure, Except.pure])
  simpa only [bind_pure] using h

/-- A default is looked at as well, and must be accepted. -/
theorem reads_checked_default {getD : Params → String → α → Except ParamError α}
    (wrap : ParamError → ε) (name : String) (hgetD : g.Defaults getD) (d : α) (hd : refuse d = none)
    (hcheck : ∀ a e, check a = .error e ↔ refuse a = some e) :
    Reads [optional wrap name g refuse] fun p => (getD p name d).mapError wrap >>= check where
  agree {p q} h := by
    have hname : p.fields.find? name = q.fields.find? name := h.of_cons
    simp only [hgetD.eq, g.get_eq_answer, hname]
  error_iff p e := by
    rw [firstFault?_singleton, faultIn?_optional, hgetD.eq]
    cases g.get p name with
    | ok a => exact hcheck a e
    | error why =>
      cases why with
      | notFound => exact (hcheck d e).trans (by rw [hd])
      | wrongType | invalid =>
        change (Except.error (wrap _) : Except ε β) = .error e ↔ some (wrap _) = some e
        simp

theorem reads_default {getD : Params → String → α → Except ParamError α} (wrap : ParamError → ε)
    (name : String) (hgetD : g.Defaults getD) (d : α) :
    Reads [optional wrap name g] fun p => (getD p name d).mapError wrap := by
  have h : Reads [optional wrap name g] fun p => (getD p name d).mapError wrap >>= pure :=
    reads_checked_default wrap name hgetD d rfl (by simp [pure, Except.pure])
  simpa only [bind_pure] using h

/-- The value of a key, or that it is absent. -/
def presentOf (wrap : ParamError → ε) : Except ParamError α → Except ε (Option α)
  | .ok a => .ok (some a)
  | .error (.notFound _) => .ok none
  | .error e => .error (wrap e)

theorem reads_present (wrap : ParamError → ε) (name : String) (g : Getter α) :
    Reads [optional wrap name g] fun p => presentOf wrap (g.get p name) where
  agree {p q} h := by
    have hname : p.fields.find? name = q.fields.find? name := h.of_cons
    simp only [g.get_eq_answer, hname]
  error_iff p e := by
    rw [firstFault?_singleton, faultIn?_optional]
    cases g.get p name with
    | ok a => simp [presentOf]
    | error why => cases why <;> simp [presentOf]

/-! ## Several keys -/

theorem reads_pure {a : Params → α} (ha : ∀ p q, a p = a q) :
    Reads ([] : List (Key ε)) fun p => pure (a p) where
  agree _ := congrArg Except.ok (ha _ _)
  error_iff _ _ := iff_of_false nofun nofun

theorem firstFault?_append :
    firstFault? (keys ++ keys') p = (firstFault? keys p).or (firstFault? keys' p) :=
  List.findSome?_append

theorem Reads.firstFault?_of_ok {a : α} (h : Reads keys f) (hp : f p = .ok a) :
    firstFault? keys p = none := by
  rw [Option.eq_none_iff_forall_ne_some]
  intro e he
  nomatch ((h.error_iff p e).2 he).symm.trans hp

theorem Reads.bind {next : α → Params → Except ε β} (hf : Reads keys f)
    (hnext : ∀ a, Reads keys' (next a)) :
    Reads (keys ++ keys') fun p => f p >>= fun a => next a p where
  agree {p q} h := by
    simp only [hf.agree h.left]
    cases f q with
    | ok a => exact (hnext a).agree h.right
    | error e => rfl
  error_iff p e := by
    rw [firstFault?_append]
    cases hp : f p with
    | ok a =>
      rw [hf.firstFault?_of_ok hp, Option.none_or]
      exact (hnext a).error_iff p e
    | error e' =>
      rw [(hf.error_iff p e').1 hp, Option.some_or, Option.some.injEq]
      exact Except.error.injEq e' e ▸ Iff.rfl

theorem Reads.map (h : Reads keys f) (m : α → β) : Reads keys fun p => (f p).map m where
  agree {p q} hpq := by rw [h.agree hpq]
  error_iff p e := by
    rw [← h.error_iff]
    cases f p <;> simp [Except.map]

/-! ## Several values together -/

theorem firstFault?_eq_none_iff :
    firstFault? keys p = none ↔ ∀ k ∈ keys, k.faultIn? p = none :=
  List.findSome?_eq_none_iff

theorem firstFault?_eq_some_iff {e : ε} : firstFault? keys p = some e ↔
    ∃ before k after, keys = before ++ k :: after ∧ k.faultIn? p = some e ∧
      ∀ other ∈ before, other.faultIn? p = none :=
  List.findSome?_eq_some_iff

/-- Values that have been read one by one are looked at together in the end. -/
theorem Reads.together (h : Reads keys f) {together : Params → Option ε}
    (hcheck : ∀ p a e, f p = .ok a → (check a = .error e ↔ together p = some e)) :
    ReadsAll keys together fun p => f p >>= check where
  agree hpq := by rw [h.agree hpq]
  error_iff p e := by
    rw [← firstFault?_eq_some_iff, ← firstFault?_eq_none_iff]
    cases hp : f p with
    | ok a =>
      rw [h.firstFault?_of_ok hp]
      change check a = .error e ↔ _
      simpa using hcheck p a e hp
    | error e' =>
      rw [(h.error_iff p e').1 hp]
      change (Except.error e' : Except ε β) = .error e ↔ _
      simp

theorem Reads.all (h : Reads keys f) : ReadsAll keys (fun _ => none) f where
  agree := h.agree
  error_iff p e := by
    rw [h.error_iff, firstFault?_eq_some_iff]
    simp

end Key

end Switchboard
