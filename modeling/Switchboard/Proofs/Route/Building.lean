import Mathlib.Order.Bounds.Basic
import Switchboard.Proofs.Route.Processors

/-!
# Routes are built up to the first entry that is refused

The entries of a route are built in order, and an entry whose type is not known or whose constructor
refuses its parameters ends the building. `ConstructsAll` says that the constructors of entries
succeed one after the other, `Refuses` how one entry ends the building; the two together say all
that building a route can come to, with constructors that may have effects. What comes after the
entry that is refused plays no part: its constructors are not called.
-/

namespace Switchboard.Route

section Effects

variable {C σ : Type}

/-- The constructor of the entry's type is called in state `s`; it makes a processor and leaves
state `s'`. -/
def Constructs (construct : C → Params → StateM σ (Except ProcessError Processor))
    (registry : Registry C) (s : σ) (given : ProcessorConfig) (processor : Processor) (s' : σ) :
    Prop :=
  ∃ constructor, registry.lookup given.type = some constructor ∧
    (construct constructor given.params).run s = (.ok processor, s')

/-- The constructors of entries make processors one after the other. -/
inductive ConstructsAll (construct : C → Params → StateM σ (Except ProcessError Processor))
    (registry : Registry C) : σ → List ProcessorConfig → List Processor → σ → Prop where
  | nil (s : σ) : ConstructsAll construct registry s [] [] s
  | cons {s t u : σ} {given : ProcessorConfig} {rest : List ProcessorConfig} {processor : Processor}
      {later : List Processor} (hfirst : Constructs construct registry s given processor t)
      (hrest : ConstructsAll construct registry t rest later u) :
      ConstructsAll construct registry s (given :: rest) (processor :: later) u

/-- The entry at a position is refused in state `s`: its type is not known, whatever its parameters
are and without a call, or its constructor fails and leaves state `s'`. -/
inductive Refuses (construct : C → Params → StateM σ (Except ProcessError Processor))
    (registry : Registry C) (position : Nat) (s : σ) (given : ProcessorConfig) :
    RouteFault → σ → Prop where
  | unknown (hlookup : registry.lookup given.type = none) :
      Refuses construct registry position s given (.unknownProcessor position given.type) s
  | construction {constructor : C} {e : ProcessError} {s' : σ}
      (hlookup : registry.lookup given.type = some constructor)
      (hcall : (construct constructor given.params).run s = (.error e, s')) :
      Refuses construct registry position s given (.construction position given.type e) s'

variable {construct : C → Params → StateM σ (Except ProcessError Processor)} {registry : Registry C}
variable {s t s' : σ} {given : ProcessorConfig} {before after entries : List ProcessorConfig}
variable {made processors : List Processor} {fault : RouteFault} {position : Nat}

theorem Refuses.position_eq (h : Refuses construct registry position s given fault s') :
    fault.position = position := by
  cases h <;> rfl

/-! ## Building processors -/

/-- What the constructor of the first entry makes comes first. -/
theorem run_buildProcessors_cons {processor : Processor}
    (h : Constructs construct registry s given processor t) (position : Nat)
    (rest : List ProcessorConfig) :
    (buildProcessors construct registry position (given :: rest)).run s =
      let later := (buildProcessors construct registry (position + 1) rest).run t
      (later.1.map (processor :: ·), later.2) := by
  obtain ⟨constructor, hlookup, hcall⟩ := h
  simp only [buildProcessors, hlookup, StateT.run_bind, hcall]
  obtain ⟨⟨answer, u⟩, hrun⟩ : ∃ result,
    (buildProcessors construct registry (position + 1) rest).run t = result := ⟨_, rfl⟩
  change (buildProcessors construct registry (position + 1) rest >>= _).run t = _
  rw [StateT.run_bind, hrun]
  cases answer <;> rfl

/-- What the constructors of entries make comes in front of what is made of the rest. -/
theorem run_buildProcessors_append (h : ConstructsAll construct registry s before made t)
    (position : Nat) (rest : List ProcessorConfig) :
    (buildProcessors construct registry position (before ++ rest)).run s =
      let later := (buildProcessors construct registry (position + before.length) rest).run t
      (later.1.map (made ++ ·), later.2) := by
  induction h generalizing position with
  | nil s =>
    obtain ⟨⟨answer, u⟩, hrun⟩ : ∃ result,
      (buildProcessors construct registry position rest).run s = result := ⟨_, rfl⟩
    simp only [List.nil_append, List.length_nil, Nat.add_zero, hrun]
    cases answer <;> rfl
  | @cons s t u given before processor made hfirst _ ih =>
    rw [List.cons_append, run_buildProcessors_cons hfirst, ih, List.length_cons,
      Nat.add_right_comm, Nat.add_assoc]
    obtain ⟨⟨answer, v⟩, hrun⟩ : ∃ result,
      (buildProcessors construct registry (position + (before.length + 1)) rest).run u = result :=
      ⟨_, rfl⟩
    rw [hrun]
    cases answer <;> rfl

theorem run_buildProcessors_of_all (h : ConstructsAll construct registry s entries processors s')
    (position : Nat) :
    (buildProcessors construct registry position entries).run s = (.ok processors, s') := by
  have hrun := run_buildProcessors_append h position []
  rw [List.append_nil] at hrun
  rw [hrun]
  exact congrArg (fun all => (Except.ok all, s')) (List.append_nil processors)

theorem run_buildProcessors_of_refuses (hbefore : ConstructsAll construct registry s before made t)
    (hrefuses : Refuses construct registry (position + before.length) t given fault s') :
    (buildProcessors construct registry position (before ++ given :: after)).run s =
      (.error fault, s') := by
  rw [run_buildProcessors_append hbefore]
  cases hrefuses with
  | unknown hlookup =>
    simp only [buildProcessors, hlookup]
    rfl
  | construction hlookup hcall =>
    simp only [buildProcessors, hlookup, StateT.run_bind, hcall]
    rfl

/-- Entries are all built, or one of them is the first to be refused. -/
theorem all_or_refuses (construct : C → Params → StateM σ (Except ProcessError Processor))
    (registry : Registry C) (position : Nat) (s : σ) (entries : List ProcessorConfig) :
    (∃ processors s', ConstructsAll construct registry s entries processors s') ∨
      ∃ before given after made t fault s', entries = before ++ given :: after ∧
        ConstructsAll construct registry s before made t ∧
        Refuses construct registry (position + before.length) t given fault s' := by
  induction entries generalizing position s with
  | nil => exact .inl ⟨[], s, .nil s⟩
  | cons given rest ih =>
    cases hlookup : registry.lookup given.type with
    | none => exact .inr ⟨[], given, rest, [], s, _, s, rfl, .nil s, .unknown hlookup⟩
    | some constructor =>
      obtain ⟨⟨answer, t⟩, hcall⟩ : ∃ result, (construct constructor given.params).run s = result :=
        ⟨_, rfl⟩
      cases answer with
      | error e => exact .inr ⟨[], given, rest, [], s, _, t, rfl, .nil s, .construction hlookup hcall⟩
      | ok processor =>
        have hfirst : Constructs construct registry s given processor t :=
          ⟨constructor, hlookup, hcall⟩
        rcases ih (position + 1) t with ⟨later, s', hall⟩ |
          ⟨before, other, after, made, u, fault, s', rfl, hbefore, hrefuses⟩
        · exact .inl ⟨_, s', .cons hfirst hall⟩
        · refine .inr ⟨given :: before, other, after, _, u, fault, s', rfl, .cons hfirst hbefore, ?_⟩
          rwa [List.length_cons, Nat.add_comm before.length, ← Nat.add_assoc]

theorem run_buildProcessors_eq_ok_iff (position : Nat) :
    (buildProcessors construct registry position entries).run s = (.ok processors, s') ↔
      ConstructsAll construct registry s entries processors s' := by
  refine ⟨fun h => ?_, fun h => run_buildProcessors_of_all h position⟩
  rcases all_or_refuses construct registry position s entries with ⟨processors', t, hall⟩ |
    ⟨before, given, after, made, t, fault, u, rfl, hbefore, hrefuses⟩
  · rw [run_buildProcessors_of_all hall position] at h
    obtain ⟨hmade, rfl⟩ := Prod.mk.inj h
    obtain rfl := Except.ok.inj hmade
    exact hall
  · rw [run_buildProcessors_of_refuses hbefore hrefuses] at h
    nomatch (Prod.mk.inj h).1

theorem run_buildProcessors_eq_error_iff :
    (buildProcessors construct registry position entries).run s = (.error fault, s') ↔
      ∃ before given after made t, entries = before ++ given :: after ∧
        ConstructsAll construct registry s before made t ∧
        Refuses construct registry (position + before.length) t given fault s' := by
  constructor
  · intro h
    rcases all_or_refuses construct registry position s entries with ⟨processors', t, hall⟩ |
      ⟨before, given, after, made, t, fault', u, rfl, hbefore, hrefuses⟩
    · rw [run_buildProcessors_of_all hall position] at h
      nomatch (Prod.mk.inj h).1
    · rw [run_buildProcessors_of_refuses hbefore hrefuses] at h
      obtain ⟨hfault, rfl⟩ := Prod.mk.inj h
      obtain rfl := Except.error.inj hfault
      exact ⟨before, given, after, made, t, rfl, hbefore, hrefuses⟩
  · rintro ⟨before, given, after, made, t, rfl, hbefore, hrefuses⟩
    exact run_buildProcessors_of_refuses hbefore hrefuses

/-! ## Building a route -/

/-- What building a route comes to when constructors may have effects: `s` is the state in which it
begins. A route is built when all constructors succeed one after the other, and it holds what they
make, with its place, source and destination. It is refused with the fault of an entry when the
constructors of the entries before succeed, and the constructors are left in the state in which they
were then. What comes after that entry changes neither the fault nor the state. -/
structure BuiltInTurn (construct : C → Params → StateM σ (Except ProcessError Processor))
    (registry : Registry C) (index : Nat) (config : RouteConfig) (s : σ) : Prop where
  built : ∀ route s', (buildWith construct registry index config).run s = (.ok route, s') ↔
    route.index = index ∧ route.input = config.input ∧ route.output = config.output ∧
      ConstructsAll construct registry s config.processors route.processors s'
  refused : ∀ fault s', (buildWith construct registry index config).run s = (.error fault, s') ↔
    ∃ before given after made t, config.processors = before ++ given :: after ∧
      ConstructsAll construct registry s before made t ∧
      Refuses construct registry before.length t given fault s'
  tail : ∀ fault s' index' other,
    (buildWith construct registry index config).run s = (.error fault, s') →
    other.processors.take (fault.position + 1) = config.processors.take (fault.position + 1) →
    (buildWith construct registry index' other).run s = (.error fault, s')

variable {index : Nat} {config : RouteConfig} {route : Route}

theorem run_buildWith_eq_ok_iff :
    (buildWith construct registry index config).run s = (.ok route, s') ↔
      route.index = index ∧ route.input = config.input ∧ route.output = config.output ∧
        ConstructsAll construct registry s config.processors route.processors s' := by
  rw [← run_buildProcessors_eq_ok_iff 0]
  obtain ⟨⟨answer, t⟩, hrun⟩ : ∃ result,
    (buildProcessors construct registry 0 config.processors).run s = result := ⟨_, rfl⟩
  simp only [buildWith, StateT.run_bind, hrun]
  cases answer with
  | error fault =>
    constructor
    · intro h
      cases (Prod.mk.inj h).1
    · rintro ⟨-, -, -, h⟩
      cases (Prod.mk.inj h).1
  | ok processors =>
    constructor
    · intro h
      obtain ⟨hroute, rfl⟩ := Prod.mk.inj h
      obtain rfl := Except.ok.inj hroute
      exact ⟨rfl, rfl, rfl, rfl⟩
    · rintro ⟨rfl, hinput, houtput, h⟩
      obtain ⟨hmade, rfl⟩ := Prod.mk.inj h
      obtain rfl := Except.ok.inj hmade
      rw [← hinput, ← houtput]
      rfl

theorem run_buildWith_eq_error_iff :
    (buildWith construct registry index config).run s = (.error fault, s') ↔
      ∃ before given after made t, config.processors = before ++ given :: after ∧
        ConstructsAll construct registry s before made t ∧
        Refuses construct registry before.length t given fault s' := by
  have hsplit : (buildProcessors construct registry 0 config.processors).run s =
    (.error fault, s') ↔ _ := run_buildProcessors_eq_error_iff
  simp only [Nat.zero_add] at hsplit
  rw [← hsplit]
  obtain ⟨⟨answer, t⟩, hrun⟩ : ∃ result,
    (buildProcessors construct registry 0 config.processors).run s = result := ⟨_, rfl⟩
  simp only [buildWith, StateT.run_bind, hrun]
  cases answer with
  | error fault' =>
    constructor
    · intro h
      obtain ⟨hfault, rfl⟩ := Prod.mk.inj h
      obtain rfl := Except.error.inj hfault
      rfl
    · intro h
      obtain ⟨hfault, rfl⟩ := Prod.mk.inj h
      obtain rfl := Except.error.inj hfault
      rfl
  | ok processors =>
    constructor
    · intro h
      cases (Prod.mk.inj h).1
    · intro h
      cases (Prod.mk.inj h).1

/-- Entries that agree up to the one that is refused are refused alike. -/
theorem run_buildWith_eq_error_of_take_eq
    (h : (buildWith construct registry index config).run s = (.error fault, s')) (index' : Nat)
    {other : RouteConfig} (hsame : other.processors.take (fault.position + 1) =
      config.processors.take (fault.position + 1)) :
    (buildWith construct registry index' other).run s = (.error fault, s') := by
  obtain ⟨before, given, after, made, t, hconfig, hbefore, hrefuses⟩ :=
    run_buildWith_eq_error_iff.1 h
  have htake : config.processors.take (fault.position + 1) = before ++ [given] := by
    rw [hconfig, hrefuses.position_eq, List.append_cons,
      List.take_left' (by rw [List.length_append, List.length_singleton])]
  refine run_buildWith_eq_error_iff.2 ⟨before, given, other.processors.drop (fault.position + 1),
    made, t, ?_, hbefore, hrefuses⟩
  rw [List.append_cons, ← htake, ← hsame, List.take_append_drop]

end Effects

/-! ## Constructors without effects -/

section Pure

variable {C σ : Type} (g : C → Params → Except ProcessError Processor) (processors : Registry C)
variable (s : σ)

theorem run_buildProcessors_pure (position : Nat) (entries : List ProcessorConfig) :
    (buildProcessors (fun c e => pure (g c e)) processors position entries : StateM σ _).run s =
      (Id.run (buildProcessors (fun c e => pure (g c e)) processors position entries), s) := by
  induction entries generalizing position with
  | nil => rfl
  | cons entry rest ih =>
    simp only [buildProcessors]
    cases processors.lookup entry.type with
    | none => rfl
    | some c =>
      simp only [pure_bind]
      cases g c entry.params with
      | error e => rfl
      | ok made =>
        simp only [StateT.run_bind, Id.run_bind, ih]
        cases Id.run (buildProcessors (fun c e => pure (g c e)) processors (position + 1) rest)
        · rfl
        · rfl

theorem run_buildWith_pure (index : Nat) (config : RouteConfig) :
    (buildWith (fun c e => pure (g c e)) processors index config : StateM σ _).run s =
      (Id.run (buildWith (fun c e => pure (g c e)) processors index config), s) := by
  simp only [buildWith, StateT.run_bind, Id.run_bind, run_buildProcessors_pure]
  cases Id.run (buildProcessors (fun c e => pure (g c e)) processors 0 config.processors)
  · rfl
  · rfl

end Pure

end Switchboard.Route

namespace Switchboard

/-- The type of the entry is known and its constructor accepts its parameters. -/
def Registry.Accepts (registry : Registry ProcessorConstructor) (given : ProcessorConfig) : Prop :=
  ∃ processor, registry.Makes given processor

namespace Route

/-- How a constructor is called that keeps a record of the calls. -/
def recorded (constructor : ProcessorConstructor) (params : Params) :
    StateM (List (ProcessorConstructor × Params)) (Except ProcessError Processor) :=
  fun calls => (constructor params, calls ++ [(constructor, params)])

/-- The calls of the constructors of entries, as far as their types are known. -/
def callsOf (registry : Registry ProcessorConstructor) (entries : List ProcessorConfig) :
    List (ProcessorConstructor × Params) :=
  entries.filterMap fun given => (registry.lookup given.type).map (·, given.params)

/-- The entries whose constructors are called when an answer has been come to. -/
def reached {α : Type} (entries : List ProcessorConfig) :
    Except RouteFault α → List ProcessorConfig
  | .ok _ => entries
  | .error fault => entries.take (fault.position + 1)

/-- What building a route comes to. A route is built exactly when every entry is accepted. It holds
what the constructors make, in the order of the entries. Otherwise the fault names the first entry
that is not accepted. It says that the type of the entry is not known, or else how its constructor
fails. What comes after that entry does not matter. The constructors that are called are those of
the entries up to that one, in order. -/
structure BuiltUpTo (registry : Registry ProcessorConstructor) (index : Nat) (config : RouteConfig) :
    Prop where
  builds_iff : (∃ route, build registry index config = .ok route) ↔
    ∀ given ∈ config.processors, registry.Accepts given
  holds : ∀ route, build registry index config = .ok route ↔
    route.index = index ∧ route.input = config.input ∧ route.output = config.output ∧
      List.Forall₂ registry.Makes config.processors route.processors
  least : ∀ fault, build registry index config = .error fault →
    IsLeast {k | ∃ given, config.processors[k]? = some given ∧ ¬ registry.Accepts given}
      fault.position
  reason : ∀ fault given, build registry index config = .error fault →
    config.processors[fault.position]? = some given →
    (registry.lookup given.type = none ∧
        fault = .unknownProcessor fault.position given.type) ∨
      ∃ constructor e, registry.lookup given.type = some constructor ∧
        constructor given.params = .error e ∧
        fault = .construction fault.position given.type e
  tail : ∀ fault index' other, build registry index config = .error fault →
    other.processors.take (fault.position + 1) = config.processors.take (fault.position + 1) →
    build registry index' other = .error fault
  calls : (buildWith recorded registry index config).run [] =
    (build registry index config,
      callsOf registry (reached config.processors (build registry index config)))

variable {registry : Registry ProcessorConstructor} {given : ProcessorConfig}
variable {entries : List ProcessorConfig} {made : List Processor}
variable {calls : List (ProcessorConstructor × Params)}

/-- A constructor without effects, called as one that may have them. -/
abbrev called (constructor : ProcessorConstructor) (params : Params) :
    StateM Unit (Except ProcessError Processor) :=
  pure (constructor params)

theorem run_buildWith_called (index : Nat) (config : RouteConfig) :
    (buildWith called registry index config).run () = (build registry index config, ()) :=
  run_buildWith_pure (fun (constructor : ProcessorConstructor) params => constructor params)
    registry () index config

theorem constructsAll_called_iff {s t : Unit} :
    ConstructsAll called registry s entries made t ↔ List.Forall₂ registry.Makes entries made := by
  constructor
  · intro h
    induction h with
    | nil => exact .nil
    | cons hfirst _ ih =>
      obtain ⟨constructor, hlookup, hcall⟩ := hfirst
      exact .cons ⟨constructor, hlookup, (Prod.mk.inj hcall).1⟩ ih
  · intro h
    induction h with
    | nil => exact .nil ()
    | cons hfirst _ ih =>
      obtain ⟨constructor, hlookup, hmade⟩ := hfirst
      exact .cons ⟨constructor, hlookup, congrArg (·, ()) hmade⟩ ih

/-- A record of calls grows by those of the entries. -/
theorem constructsAll_recorded (h : List.Forall₂ registry.Makes entries made)
    (calls : List (ProcessorConstructor × Params)) :
    ConstructsAll recorded registry calls entries made (calls ++ callsOf registry entries) := by
  induction h generalizing calls with
  | nil =>
    rw [callsOf, List.filterMap_nil, List.append_nil]
    exact .nil calls
  | @cons given _ rest _ hfirst _ ih =>
    obtain ⟨constructor, hlookup, hmade⟩ := hfirst
    have hcalls : calls ++ callsOf registry (given :: rest) =
        calls ++ [(constructor, given.params)] ++ callsOf registry rest := by
      rw [callsOf, List.filterMap_cons_some (by rw [hlookup, Option.map_some]), List.append_cons]
      rfl
    rw [hcalls]
    exact .cons ⟨constructor, hlookup, congrArg (·, calls ++ [(constructor, given.params)]) hmade⟩
      (ih _)

/-- An entry that is refused adds its call to the record, if it has a constructor. -/
theorem refuses_recorded {position : Nat} {fault : RouteFault}
    (h : Refuses called registry position () given fault ()) :
    Refuses recorded registry position calls given fault (calls ++ callsOf registry [given]) := by
  cases h with
  | unknown hlookup =>
    have hnone : callsOf registry [given] = [] := by
      rw [callsOf, List.filterMap_cons_none (by rw [hlookup, Option.map_none]), List.filterMap_nil]
    rw [hnone, List.append_nil]
    exact .unknown hlookup
  | @construction constructor _ _ hlookup hcall =>
    have hone : callsOf registry [given] = [(constructor, given.params)] := by
      rw [callsOf, List.filterMap_cons_some (by rw [hlookup, Option.map_some]), List.filterMap_nil]
    rw [hone]
    exact .construction hlookup (congrArg (·, _) (Prod.mk.inj hcall).1)

theorem not_accepts_of_refuses {position : Nat} {fault : RouteFault}
    (h : Refuses called registry position () given fault ()) : ¬ registry.Accepts given := by
  rintro ⟨processor, constructor, hlookup, hmade⟩
  cases h with
  | unknown hnone => nomatch hlookup.symm.trans hnone
  | construction hlookup' hcall =>
    obtain rfl := Option.some.inj (hlookup.symm.trans hlookup')
    nomatch hmade.symm.trans (Prod.mk.inj hcall).1

theorem forall_accepts_iff :
    (∀ given ∈ entries, registry.Accepts given) ↔
      ∃ made, List.Forall₂ registry.Makes entries made := by
  induction entries with
  | nil => exact iff_of_true nofun ⟨[], .nil⟩
  | cons given rest ih =>
    rw [List.forall_mem_cons, ih]
    constructor
    · rintro ⟨⟨processor, hfirst⟩, made, hrest⟩
      exact ⟨processor :: made, .cons hfirst hrest⟩
    · rintro ⟨made, hmade⟩
      obtain ⟨processor, made, hfirst, hrest, rfl⟩ := List.forall₂_cons_left_iff.1 hmade
      exact ⟨⟨processor, hfirst⟩, made, hrest⟩

variable {index : Nat} {config : RouteConfig} {route : Route} {fault : RouteFault}

theorem build_eq_ok_iff : build registry index config = .ok route ↔
    route.index = index ∧ route.input = config.input ∧ route.output = config.output ∧
      List.Forall₂ registry.Makes config.processors route.processors := by
  rw [← constructsAll_called_iff (s := ()) (t := ()), ← run_buildWith_eq_ok_iff,
    run_buildWith_called, Prod.mk.injEq, and_iff_left rfl]

theorem build_eq_error_iff : build registry index config = .error fault ↔
    ∃ before given after made, config.processors = before ++ given :: after ∧
      List.Forall₂ registry.Makes before made ∧
      Refuses called registry before.length () given fault () := by
  have hsplit : (buildWith called registry index config).run () = (.error fault, ()) ↔ _ :=
    run_buildWith_eq_error_iff
  rw [run_buildWith_called, Prod.mk.injEq, and_iff_left rfl] at hsplit
  rw [hsplit]
  constructor
  · rintro ⟨before, given, after, made, _, hconfig, hbefore, hrefuses⟩
    exact ⟨before, given, after, made, hconfig, constructsAll_called_iff.1 hbefore, hrefuses⟩
  · rintro ⟨before, given, after, made, hconfig, hbefore, hrefuses⟩
    exact ⟨before, given, after, made, (), hconfig, constructsAll_called_iff.2 hbefore, hrefuses⟩

/-- Building a route calls the constructors of the entries that it reaches. -/
theorem run_buildWith_recorded (registry : Registry ProcessorConstructor) (index : Nat)
    (config : RouteConfig) : (buildWith recorded registry index config).run [] =
      (build registry index config,
        callsOf registry (reached config.processors (build registry index config))) := by
  cases hbuild : build registry index config with
  | ok route =>
    obtain ⟨hindex, hinput, houtput, hmade⟩ := build_eq_ok_iff.1 hbuild
    refine run_buildWith_eq_ok_iff.2 ⟨hindex, hinput, houtput, ?_⟩
    exact constructsAll_recorded hmade []
  | error fault =>
    obtain ⟨before, given, after, made, hconfig, hbefore, hrefuses⟩ := build_eq_error_iff.1 hbuild
    refine run_buildWith_eq_error_iff.2 ⟨before, given, after, made, _, hconfig,
      constructsAll_recorded hbefore [], ?_⟩
    have hreached : reached config.processors (.error fault : Except RouteFault Route) =
        before ++ [given] := by
      rw [reached, hconfig, hrefuses.position_eq, List.append_cons,
        List.take_left' (by rw [List.length_append, List.length_singleton])]
    have hcalls : callsOf registry (before ++ [given]) =
        callsOf registry before ++ callsOf registry [given] := List.filterMap_append
    rw [hreached, hcalls, List.nil_append]
    exact refuses_recorded hrefuses

theorem isLeast_position (h : build registry index config = .error fault) :
    IsLeast {k | ∃ given, config.processors[k]? = some given ∧ ¬ registry.Accepts given}
      fault.position := by
  obtain ⟨before, given, after, made, hconfig, hbefore, hrefuses⟩ := build_eq_error_iff.1 h
  rw [hrefuses.position_eq, hconfig]
  constructor
  · exact ⟨given, by simp, not_accepts_of_refuses hrefuses⟩
  · rintro k ⟨other, hother, hrefused⟩
    by_contra hlt
    rw [not_le] at hlt
    rw [List.getElem?_append_left hlt] at hother
    obtain ⟨processor, -, hmakes⟩ := exists_getElem?_of_forall₂ hbefore hother
    exact hrefused ⟨processor, hmakes⟩

theorem reason_of_build_eq_error (h : build registry index config = .error fault)
    (hgiven : config.processors[fault.position]? = some given) :
    (registry.lookup given.type = none ∧ fault = .unknownProcessor fault.position given.type) ∨
      ∃ constructor e, registry.lookup given.type = some constructor ∧
        constructor given.params = .error e ∧
        fault = .construction fault.position given.type e := by
  obtain ⟨before, given', after, made, hconfig, -, hrefuses⟩ := build_eq_error_iff.1 h
  rw [hconfig, hrefuses.position_eq, List.getElem?_append_right le_rfl, Nat.sub_self] at hgiven
  obtain rfl := Option.some.inj hgiven
  cases hrefuses with
  | unknown hlookup => exact .inl ⟨hlookup, rfl⟩
  | construction hlookup hcall => exact .inr ⟨_, _, hlookup, (Prod.mk.inj hcall).1, rfl⟩

/-- **A route is built as a whole, or refused at its first entry that cannot be built.** The first
part is about constructors that may have effects, the second about constructors that have none. -/
theorem builds_up_to_first_refusal {C σ : Type}
    (construct : C → Params → StateM σ (Except ProcessError Processor)) (effectful : Registry C)
    (s : σ) (registry : Registry ProcessorConstructor) (index : Nat) (config : RouteConfig) :
    BuiltInTurn construct effectful index config s ∧ BuiltUpTo registry index config where
  left :=
    { built := fun _ _ => run_buildWith_eq_ok_iff
      refused := fun _ _ => run_buildWith_eq_error_iff
      tail := fun _ _ index' _ h => run_buildWith_eq_error_of_take_eq h index' }
  right :=
    { builds_iff := by
        simp only [build_eq_ok_iff, forall_accepts_iff]
        constructor
        · rintro ⟨route, -, -, -, hmade⟩
          exact ⟨route.processors, hmade⟩
        · rintro ⟨made, hmade⟩
          exact ⟨⟨index, config.input, made, config.output⟩, rfl, rfl, rfl, hmade⟩
      holds := fun _ => build_eq_ok_iff
      least := fun _ => isLeast_position
      reason := fun _ _ => reason_of_build_eq_error
      tail := by
        intro fault index' other h hsame
        have hrun : (buildWith called registry index config).run () = _ :=
          run_buildWith_called index config
        rw [h] at hrun
        have hother := run_buildWith_eq_error_of_take_eq hrun index' hsame
        rw [run_buildWith_called] at hother
        exact (Prod.mk.inj hother).1
      calls := run_buildWith_recorded registry index config }

end Route

end Switchboard
