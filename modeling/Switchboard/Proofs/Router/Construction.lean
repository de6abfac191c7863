import Switchboard.CommandLine.Program
import Switchboard.Proofs.Registry
import Switchboard.Proofs.Route.Building
import Switchboard.Proofs.Router.Placement

/-!
# What is built of a configuration

A router and what is missing in it are the places of the entries of a configuration, of the modules
first and then of the routes. Constructors without effects are a case of this.
-/

namespace Switchboard.Assembly

section Effects

variable {C P M σ : Type}

/-- Every entry of a configuration in its place, the modules first: `verdict` and `routeVerdict` say
what becomes of the entries, and `state` and `routeState` in which states the constructors are
before them. The modules are in their places. The routes are in theirs. The processors are built
after the modules. Of the entries of one id at most one is retained, and it is the first that
passes: those before it have faults of their own, and those after it are duplicates. The ids of the
router are those of the retained entries. They are sorted, and none comes twice. -/
structure Partition (constructModule : C → ModuleConfig → StateM σ (Except ModuleError M))
    (constructProcessor : P → Params → StateM σ (Except ProcessError Processor))
    (modules : Registry C) (processors : Registry P) (config : Config)
    (verdict : Nat → Except ModuleFault M) (state : Nat → σ)
    (routeVerdict : Nat → Except RouteFault Route) (routeState : Nat → σ) (a : Assembly M) :
    Prop where
  modules : ModulePartition constructModule modules config.modules verdict state a.router.modules
    a.moduleErrors
  routes : RoutePartition constructProcessor processors config.routes routeVerdict routeState
    a.router.routes a.routeErrors
  between : routeState 0 = state config.modules.length
  first : ∀ k entry made, config.modules[k]? = some entry → verdict k = .ok made →
    ∀ j other, config.modules[j]? = some other → other.id = entry.id →
      (j < k → ∃ fault, verdict j = .error fault ∧ ∀ id, fault ≠ .duplicateId id) ∧
      (k < j → verdict j = .error (.duplicateId entry.id))
  mem_moduleIds : ∀ id, id ∈ a.router.moduleIds ↔
    ∃ k entry made, config.modules[k]? = some entry ∧ entry.id = id ∧ verdict k = .ok made
  moduleIds_sorted : a.router.moduleIds.Pairwise (· < ·)

/-- Building a router puts every entry in its place. -/
theorem ofConfigWith_partition
    (constructModule : C → ModuleConfig → StateM σ (Except ModuleError M))
    (constructProcessor : P → Params → StateM σ (Except ProcessError Processor))
    (modules : Registry C) (processors : Registry P) (config : Config) (s : σ) :
    ∃ verdict state routeVerdict routeState,
      let out := (ofConfigWith constructModule constructProcessor modules processors config).run s
      state 0 = s ∧ routeState config.routes.length = out.2 ∧
      Partition constructModule constructProcessor modules processors config verdict state
        routeVerdict routeState out.1 := by
  obtain ⟨verdict, state, hfirst, hlast, hmodules⟩ := buildModules_partition
    (ModulePartition.nil constructModule modules (fun _ => .error .emptyId) fun _ => s)
    config.modules
  obtain ⟨⟨built, s'⟩, hrun⟩ : ∃ result,
    (buildModules constructModule modules 0 [] config.modules).run s = result := ⟨_, rfl⟩
  obtain ⟨routeVerdict, routeState, hbetween, hend, hroutes⟩ := buildRoutes_partition
    (RoutePartition.nil constructProcessor processors (fun _ => .error (.unknownProcessor 0 ""))
      fun _ => s')
    config.routes
  simp only [List.length_nil, List.nil_append, hrun] at hlast hmodules hend hroutes
  refine ⟨verdict, state, routeVerdict, routeState, hfirst, ?_, ?_⟩
  · simp only [ofConfigWith, StateT.run_bind, hrun]
    exact hend
  · simp only [ofConfigWith, StateT.run_bind, hrun]
    refine ⟨hmodules, hroutes, hbetween.trans hlast.symm, ?_, ?_, hmodules.sorted⟩
    · intro k entry made hentry hmade j other hother hid
      exact ⟨fun hlt => hmodules.fault_of_lt hentry hmade hlt hother hid,
        fun hlt => hmodules.duplicateId_of_lt hentry hmade hlt hother hid⟩
    · intro id
      rw [Router.moduleIds, Table.mem_keys_iff]
      constructor
      · rintro ⟨made, hfind⟩
        obtain ⟨k, entry, hentry, hid, hmade⟩ := (hmodules.retained id made).1 hfind
        exact ⟨k, entry, made, hentry, hid, hmade⟩
      · rintro ⟨k, entry, made, hentry, hid, hmade⟩
        exact ⟨made, (hmodules.retained id made).2 ⟨k, entry, hentry, hid, hmade⟩⟩

end Effects

/-! ## Constructors without effects -/

section Pure

variable {C P M σ : Type} (f : C → ModuleConfig → Except ModuleError M) (registry : Registry C)
variable (g : P → Params → Except ProcessError Processor) (processors : Registry P) (s : σ)

theorem run_buildModule_pure (built : Table M) (entry : ModuleConfig) :
    (buildModule (fun c e => pure (f c e)) registry built entry : StateM σ _).run s =
      (Id.run (buildModule (fun c e => pure (f c e)) registry built entry), s) := by
  simp only [buildModule]
  split
  · rfl
  · split
    · rfl
    · split
      · rfl
      · simp only [pure_bind]
        split <;> rfl

theorem run_buildModules_pure (index : Nat) (built : Table M) (entries : List ModuleConfig) :
    (buildModules (fun c e => pure (f c e)) registry index built entries : StateM σ _).run s =
      (Id.run (buildModules (fun c e => pure (f c e)) registry index built entries), s) := by
  induction entries generalizing index built with
  | nil => rfl
  | cons entry rest ih =>
    have hnow := run_buildModule_pure f registry s built entry
    cases hid : Id.run (buildModule (fun c e => pure (f c e)) registry built entry) with
    | ok made =>
      rw [hid] at hnow
      rw [run_buildModules_of_ok index hnow, ih]
      simp only [buildModules, Id.run_bind, hid]
      rfl
    | error fault =>
      rw [hid] at hnow
      rw [run_buildModules_of_error index hnow, ih]
      simp only [buildModules, Id.run_bind, hid]
      rfl

theorem run_buildRoutes_pure (index : Nat) (entries : List RouteConfig) :
    (buildRoutes (fun c e => pure (g c e)) processors index entries : StateM σ _).run s =
      (Id.run (buildRoutes (fun c e => pure (g c e)) processors index entries), s) := by
  induction entries generalizing index with
  | nil => rfl
  | cons config rest ih =>
    have hnow := Route.run_buildWith_pure g processors s index config
    cases hid : Id.run (Route.buildWith (fun c e => pure (g c e)) processors index config) with
    | ok route =>
      rw [hid] at hnow
      rw [run_buildRoutes_of_ok index hnow, ih]
      simp only [buildRoutes, Id.run_bind, hid]
      rfl
    | error fault =>
      rw [hid] at hnow
      rw [run_buildRoutes_of_error index hnow, ih]
      simp only [buildRoutes, Id.run_bind, hid]
      rfl

theorem run_ofConfigWith_pure (config : Config) :
    (ofConfigWith (fun c e => pure (f c e)) (fun c e => pure (g c e)) registry processors config :
        StateM σ _).run s =
      (Id.run (ofConfigWith (fun c e => pure (f c e)) (fun c e => pure (g c e)) registry
        processors config), s) := by
  simp only [ofConfigWith, StateT.run_bind, Id.run_bind, run_buildModules_pure,
    run_buildRoutes_pure]
  rfl

end Pure

/-! ## What a configuration comes to -/

section Functions

variable {C P M : Type}

/-- Builds a router with constructors that are functions of the entries that they are given. -/
def ofFunctions (f : C → ModuleConfig → Except ModuleError M)
    (g : P → Params → Except ProcessError Processor) (modules : Registry C)
    (processors : Registry P) (config : Config) : Assembly M :=
  Id.run (ofConfigWith (fun c entry => pure (f c entry)) (fun c params => pure (g c params)) modules
    processors config)

theorem ofFunctions_partition (f : C → ModuleConfig → Except ModuleError M)
    (g : P → Params → Except ProcessError Processor) (modules : Registry C)
    (processors : Registry P) (config : Config) :
    ∃ verdict routeVerdict,
      Partition (fun c entry => pure (f c entry)) (fun c params => pure (g c params)) modules
        processors config verdict (fun _ => ()) routeVerdict (fun _ => ())
        (ofFunctions f g modules processors config) := by
  obtain ⟨verdict, state, routeVerdict, routeState, -, -, hparts⟩ :=
    ofConfigWith_partition (σ := Unit) (fun c entry => pure (f c entry))
      (fun c params => pure (g c params)) modules processors config ()
  rw [run_ofConfigWith_pure] at hparts
  exact ⟨verdict, routeVerdict, hparts⟩

end Functions

/-- The entries in their places when the constructors are those of a program. -/
theorem ofConfig_partition (registries : Registries) (config : Config) :
    ∃ verdict routeVerdict,
      Partition (fun c entry => pure (c entry)) (fun c params => pure (c params))
        registries.modules registries.processors config verdict (fun _ => ()) routeVerdict
        (fun _ => ()) (ofConfig registries config) :=
  ofFunctions_partition (fun (c : ModuleConstructor) entry => c entry)
    (fun (c : ProcessorConstructor) params => c params) registries.modules registries.processors
    config

/-- A route of the router is built of the entry at its place. -/
theorem exists_build_of_mem_routes {registries : Registries} {config : Config} {route : Route}
    (h : route ∈ (ofConfig registries config).router.routes) :
    ∃ entry, config.routes[route.index]? = some entry ∧
      Route.build registries.processors route.index entry = .ok route := by
  obtain ⟨verdict, routeVerdict, hparts⟩ := ofConfig_partition registries config
  obtain ⟨entry, hentry, -, -, hroute⟩ := (hparts.routes.retained route).1 h
  have hcompiled := hparts.routes.compiled _ entry hentry
  rw [Route.run_buildWith_pure, hroute] at hcompiled
  exact ⟨entry, hentry, (Prod.mk.inj hcompiled).1⟩

/-- A module that the program has built has not been started. -/
theorem atRest_of_ofConfig_all {config : Config} {id : String} {made : Module}
    (h : (ofConfig .all config).router.module? id = some made) : made.AtRest := by
  obtain ⟨verdict, routeVerdict, hparts⟩ := ofConfig_partition .all config
  obtain ⟨k, entry, hentry, -, hmade⟩ := (hparts.modules.retained id made).1 h
  have hj := hparts.modules.judged k entry hentry
  rw [hmade] at hj
  cases hj with
  | built _ _ hlookup hcall =>
    exact ((Registries.fromLibrary_of_lookup_all hlookup).spec (Prod.mk.inj hcall).1).2

theorem checked_exit_eq_zero_iff (a : Assembly Module) :
    (CommandLine.checked a).exit = 0 ↔ a.rejected = 0 := by
  simp only [CommandLine.checked]
  by_cases hnone : a.rejected = 0
  · rw [if_pos hnone]
    exact iff_of_true rfl hnone
  · rw [if_neg hnone]
    exact iff_of_false Nat.one_ne_zero hnone

/-- A check of a configuration fails when some entry is missing from the router. -/
theorem Partition.checked_exit_ne_zero_iff {C P σ : Type}
    {constructModule : C → ModuleConfig → StateM σ (Except ModuleError Module)}
    {constructProcessor : P → Params → StateM σ (Except ProcessError Processor)}
    {modules : Registry C} {processors : Registry P} {config : Config}
    {verdict : Nat → Except ModuleFault Module} {state : Nat → σ}
    {routeVerdict : Nat → Except RouteFault Route} {routeState : Nat → σ} {a : Assembly Module}
    (h : Partition constructModule constructProcessor modules processors config verdict state
      routeVerdict routeState a) :
    (CommandLine.checked a).exit ≠ 0 ↔
      a.router.moduleCount < config.modules.length ∨
        a.router.routeCount < config.routes.length := by
  have hmodules := h.modules.count
  have hroutes := h.routes.count
  rw [Ne, checked_exit_eq_zero_iff, rejected, Router.moduleCount, Router.routeCount]
  omega

/-- **Building a router puts every entry of its configuration in exactly one place.** The first part
is about constructors that may have effects, of any registries; the second about the registries of a
program. There `verdict` and `routeVerdict` say what becomes of the entries, every module that a
constructor of the library has made has the id that it is kept under, and a check fails exactly
when some entry is missing. -/
theorem construction_partitions {C P M σ : Type}
    (constructModule : C → ModuleConfig → StateM σ (Except ModuleError M))
    (constructProcessor : P → Params → StateM σ (Except ProcessError Processor))
    (modules : Registry C) (processors : Registry P) (registries : Registries) (config : Config)
    (s : σ) :
    (∃ verdict state routeVerdict routeState,
      let out := (ofConfigWith constructModule constructProcessor modules processors config).run s
      state 0 = s ∧ routeState config.routes.length = out.2 ∧
      Partition constructModule constructProcessor modules processors config verdict state
        routeVerdict routeState out.1) ∧
    ∃ verdict routeVerdict,
      let a := ofConfig registries config
      Partition (fun c entry => pure (c entry)) (fun c params => pure (c params))
        registries.modules registries.processors config verdict (fun _ => ()) routeVerdict
        (fun _ => ()) a ∧
      (∀ k entry, config.routes[k]? = some entry →
        routeVerdict k = Route.build registries.processors k entry) ∧
      (∀ k entry made constructor, config.modules[k]? = some entry → verdict k = .ok made →
        registries.modules.lookup entry.type = some constructor →
        Module.FromLibrary constructor → made.id = entry.id) ∧
      ((CommandLine.checked a).exit ≠ 0 ↔
        a.router.moduleCount < config.modules.length ∨
          a.router.routeCount < config.routes.length) := by
  refine ⟨ofConfigWith_partition constructModule constructProcessor modules processors config s, ?_⟩
  obtain ⟨verdict, routeVerdict, hparts⟩ := ofConfig_partition registries config
  refine ⟨verdict, routeVerdict, hparts, ?_, ?_, ?_⟩
  · intro k entry hentry
    have hcompiled := hparts.routes.compiled k entry hentry
    rw [Route.run_buildWith_pure] at hcompiled
    exact (Prod.mk.inj hcompiled).1.symm
  · intro k entry made constructor hentry hmade hlookup hlibrary
    have hj := hparts.modules.judged k entry hentry
    rw [hmade] at hj
    cases hj with
    | built _ _ hlookup' hcall =>
      obtain rfl := Option.some.inj (hlookup.symm.trans hlookup')
      exact (hlibrary.spec (Prod.mk.inj hcall).1).1
  · exact hparts.checked_exit_ne_zero_iff

end Switchboard.Assembly
