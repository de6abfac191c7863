import Switchboard.Proofs.Except
import Switchboard.Proofs.Router.Renumbering

/-!
# Rejected entries

An entry that is rejected leaves nothing behind but its error. Without it every other entry comes to
the same, and those after it are one place lower.
-/

namespace Switchboard

def ModuleLoadError.renumber (f : Nat → Nat) (e : ModuleLoadError) : ModuleLoadError :=
  { e with index := f e.index }

def RouteLoadError.renumber (f : Nat → Nat) (e : RouteLoadError) : RouteLoadError :=
  { e with index := f e.index }

namespace Assembly

/-! ## Places -/

/-- Where the entry at `k` is when the entry at `i` is gone. -/
def lower (i k : Nat) : Nat := if i < k then k - 1 else k

/-- Where the entry at `k` has been before the entry at `i` was gone. -/
def raise (i k : Nat) : Nat := if k < i then k else k + 1

section Places

variable {i j k : Nat}

theorem lower_of_le (h : k ≤ i) : lower i k = k := if_neg h.not_gt

theorem lower_succ (h : i ≤ k) : lower i (k + 1) = k := if_pos (Nat.lt_succ_of_le h)

theorem raise_ne (i k : Nat) : raise i k ≠ i := by
  unfold raise
  split
  · omega
  · omega

theorem lower_raise (i k : Nat) : lower i (raise i k) = k := by
  unfold raise
  split
  · next hlt => exact lower_of_le hlt.le
  · next hnlt => exact lower_succ (not_lt.1 hnlt)

theorem raise_lower (h : k ≠ i) : raise i (lower i k) = k := by
  unfold raise lower
  split
  · split
    · omega
    · omega
  · split
    · omega
    · omega

theorem raise_lt_raise : raise i j < raise i k ↔ j < k := by
  unfold raise
  split
  · split
    · omega
    · omega
  · split
    · omega
    · omega

theorem lower_lt_lower (hj : j ≠ i) (hk : k ≠ i) : lower i j < lower i k ↔ j < k := by
  rw [← raise_lt_raise (i := i), raise_lower hj, raise_lower hk]

/-- What does not hold at a place holds somewhere exactly when it does once that place is gone. -/
theorem exists_raise {p : Nat → Prop} (h : ¬ p i) : (∃ k, p (raise i k)) ↔ ∃ k, p k := by
  constructor
  · rintro ⟨k, hk⟩
    exact ⟨raise i k, hk⟩
  · rintro ⟨k, hk⟩
    refine ⟨lower i k, ?_⟩
    rw [raise_lower]
    · exact hk
    · rintro rfl
      exact h hk

theorem getElem?_eraseIdx_eq_raise {α : Type} (xs : List α) (i k : Nat) :
    (xs.eraseIdx i)[k]? = xs[raise i k]? := by
  rw [List.getElem?_eraseIdx, raise, apply_ite (xs[·]?)]

end Places

/-! ## Verdicts -/

section Verdicts

variable {C M σ : Type} {construct : C → ModuleConfig → StateM σ (Except ModuleError M)}
variable {registry : Registry C} {entries : List ModuleConfig}
variable {verdict : Nat → Except ModuleFault M} {s : σ} {built : Table M} {i : Nat}

/-- What has been retained before an entry has been so without one that was not. -/
theorem retainedBefore_eraseIdx {fault : ModuleFault} (h : verdict i = .error fault) (k : Nat) :
    RetainedBefore entries verdict (raise i k) =
      RetainedBefore (entries.eraseIdx i) (verdict ∘ raise i) k := by
  funext id
  simp only [RetainedBefore, getElem?_eraseIdx_eq_raise, Function.comp_apply]
  rw [← exists_raise (i := i)]
  · simp only [raise_lt_raise]
  · rintro ⟨-, entry, made, -, -, hmade⟩
    nomatch h.symm.trans hmade

theorem mem_map_lower {errors : List ModuleLoadError} (h : ∀ e ∈ errors, e.index ≠ i)
    {e : ModuleLoadError} :
    e ∈ errors.map (ModuleLoadError.renumber (lower i)) ↔ e.renumber (raise i) ∈ errors := by
  rw [List.mem_map]
  constructor
  · rintro ⟨e, he, rfl⟩
    have hindex : raise i (lower i e.index) = e.index := raise_lower (h e he)
    simp only [ModuleLoadError.renumber, hindex]
    exact he
  · intro he
    refine ⟨_, he, ?_⟩
    simp only [ModuleLoadError.renumber, lower_raise]

/-- Without a module that is rejected, every other is in its place, with the same verdict. -/
theorem ModulePartition.eraseIdx {e : ModuleLoadError} {before after : List ModuleLoadError}
    (h : ModulePartition construct registry entries verdict (fun _ => s) built
      (before ++ e :: after)) :
    ModulePartition construct registry (entries.eraseIdx e.index) (verdict ∘ raise e.index)
      (fun _ => s) built ((before ++ after).map (ModuleLoadError.renumber (lower e.index))) := by
  obtain ⟨gone, hgone, -, hfault⟩ := (h.rejected e).1 (by simp)
  have hsublist : (before ++ after).Sublist (before ++ e :: after) :=
    (List.sublist_cons_self e after).append_left before
  -- Places increase, so that no other error is at the place that goes.
  have hothers : ∀ other ∈ before ++ after, other.index ≠ e.index := by
    obtain ⟨-, hafter, hbefore⟩ := List.pairwise_append.1 h.increasing
    intro other hother
    rcases List.mem_append.1 hother with hother | hother
    · exact (hbefore other hother e List.mem_cons_self).ne
    · exact ((List.pairwise_cons.1 hafter).1 other hother).ne'
  refine ⟨?judged, ?retained, ?rejected, h.sorted, ?increasing, ?count⟩
  case judged =>
    intro k entry hentry
    rw [getElem?_eraseIdx_eq_raise] at hentry
    rw [← retainedBefore_eraseIdx hfault]
    exact h.judged _ entry hentry
  case retained =>
    intro id made
    simp only [h.retained, getElem?_eraseIdx_eq_raise, Function.comp_apply]
    rw [← exists_raise]
    rintro ⟨entry, -, -, hmade⟩
    nomatch hfault.symm.trans hmade
  case rejected =>
    intro other
    have hne : other.renumber (raise e.index) ≠ e := by
      intro heq
      exact raise_ne e.index other.index (congrArg ModuleLoadError.index heq)
    have hmem := h.rejected (other.renumber (raise e.index))
    rw [List.mem_append, List.mem_cons, or_iff_right hne, ← List.mem_append] at hmem
    rw [mem_map_lower hothers, hmem, getElem?_eraseIdx_eq_raise]
    rfl
  case increasing =>
    refine List.pairwise_map.2 ((h.increasing.sublist hsublist).imp_of_mem ?_)
    intro x y hx hy hlt
    exact (lower_lt_lower (hothers x hx) (hothers y hy)).2 hlt
  case count =>
    have hcount := h.count
    have hlength := List.length_eraseIdx_of_lt (List.getElem?_eq_some_iff.1 hgone).1
    simp only [List.length_append, List.length_cons, List.length_map] at hcount ⊢
    omega

end Verdicts

/-! ## Modules -/

section Modules

variable {C M : Type} {f : C → ModuleConfig → Except ModuleError M} {registry : Registry C}
variable {i index : Nat} {built : Table M} {entry : ModuleConfig} {rest : List ModuleConfig}

/-- What becomes of a module when some have been built. -/
def moduleOf (f : C → ModuleConfig → Except ModuleError M) (registry : Registry C) (built : Table M)
    (entry : ModuleConfig) : Except ModuleFault M :=
  Id.run (buildModule (fun c entry => pure (f c entry)) registry built entry)

/-- What becomes of modules, of which the first is at a place. -/
def modulesOf (f : C → ModuleConfig → Except ModuleError M) (registry : Registry C) (index : Nat)
    (built : Table M) (entries : List ModuleConfig) : Modules M :=
  Id.run (buildModules (fun c entry => pure (f c entry)) registry index built entries)

def Modules.renumber (g : Nat → Nat) (ms : Modules M) : Modules M :=
  { ms with errors := ms.errors.map (ModuleLoadError.renumber g) }

theorem modulesOf_of_ok {made : M} (h : moduleOf f registry built entry = .ok made) :
    modulesOf f registry index built (entry :: rest) =
      let later := modulesOf f registry (index + 1) (built.insert entry.id made) rest
      let told := "Module " ++ entry.id ++ " (" ++ entry.type ++ ") created"
      { later with log := ⟨.info, told⟩ :: later.log } := by
  rw [moduleOf] at h
  simp only [modulesOf, buildModules, Id.run_bind, h]
  rfl

theorem modulesOf_of_error {fault : ModuleFault}
    (h : moduleOf f registry built entry = .error fault) :
    modulesOf f registry index built (entry :: rest) =
      let later := modulesOf f registry (index + 1) built rest
      { later with errors := ⟨index, entry.id, fault⟩ :: later.errors } := by
  rw [moduleOf] at h
  simp only [modulesOf, buildModules, Id.run_bind, h]
  rfl

/-- Modules that are one place lower come to the same, with their errors one place lower. -/
theorem modulesOf_lower (h : i ≤ index) (built : Table M) (entries : List ModuleConfig) :
    modulesOf f registry index built entries =
      (modulesOf f registry (index + 1) built entries).renumber (lower i) := by
  induction entries generalizing index built with
  | nil => rfl
  | cons entry rest ih =>
    cases hentry : moduleOf f registry built entry with
    | ok made =>
      rw [modulesOf_of_ok hentry, modulesOf_of_ok hentry, ih (Nat.le_succ_of_le h)]
      rfl
    | error fault =>
      rw [modulesOf_of_error hentry, modulesOf_of_error hentry, ih (Nat.le_succ_of_le h)]
      simp only [Modules.renumber, List.map_cons, ModuleLoadError.renumber, lower_succ h]

/-- Without a module that is rejected the others come to the same. -/
theorem modulesOf_eraseIdx {entries : List ModuleConfig} {e : ModuleLoadError}
    (he : e ∈ (modulesOf f registry index built entries).errors) :
    ∃ k before after, e.index = index + k ∧
      (modulesOf f registry index built entries).errors = before ++ e :: after ∧
      modulesOf f registry index built (entries.eraseIdx k) =
        { modulesOf f registry index built entries with
          errors := (before ++ after).map (ModuleLoadError.renumber (lower e.index)) } := by
  induction entries generalizing index built with
  | nil => nomatch he
  | cons entry rest ih =>
    cases hentry : moduleOf f registry built entry with
    | ok made =>
      rw [modulesOf_of_ok hentry] at he
      obtain ⟨k, before, after, hindex, herrors, hrest⟩ := ih he
      refine ⟨k + 1, before, after, by omega, ?_, ?_⟩
      · rw [modulesOf_of_ok hentry]
        exact herrors
      · rw [List.eraseIdx_cons_succ, modulesOf_of_ok hentry, modulesOf_of_ok hentry, hrest]
    | error fault =>
      rw [modulesOf_of_error hentry] at he
      rcases List.mem_cons.1 he with rfl | he
      -- The first entry goes, and the others begin where it was.
      · refine ⟨0, [], (modulesOf f registry (index + 1) built rest).errors, rfl, ?_, ?_⟩
        · rw [modulesOf_of_error hentry]
          rfl
        · rw [List.eraseIdx_cons_zero, modulesOf_of_error hentry, modulesOf_lower le_rfl]
          rfl
      -- An entry after the first goes, and the error of the first stays where it is.
      · obtain ⟨k, before, after, hindex, herrors, hrest⟩ := ih he
        refine ⟨k + 1, ⟨index, entry.id, fault⟩ :: before, after, by omega, ?_, ?_⟩
        · rw [modulesOf_of_error hentry]
          exact congrArg (List.cons _) herrors
        · have hlower : lower e.index index = index := lower_of_le (by omega)
          rw [List.eraseIdx_cons_succ, modulesOf_of_error hentry, modulesOf_of_error hentry, hrest]
          simp only [List.cons_append, List.map_cons, ModuleLoadError.renumber, hlower]

end Modules

/-! ## Routes -/

section Routes

variable {P : Type} {g : P → Params → Except ProcessError Processor} {registry : Registry P}
variable {i index : Nat} {entry : RouteConfig} {rest : List RouteConfig}

/-- What becomes of a route at a place. -/
def routeOf (g : P → Params → Except ProcessError Processor) (registry : Registry P) (index : Nat)
    (entry : RouteConfig) : Except RouteFault Route :=
  Id.run (Route.buildWith (fun c params => pure (g c params)) registry index entry)

/-- What becomes of routes, of which the first is at a place. -/
def routesOf (g : P → Params → Except ProcessError Processor) (registry : Registry P) (index : Nat)
    (entries : List RouteConfig) : Routes :=
  Id.run (buildRoutes (fun c params => pure (g c params)) registry index entries)

theorem routeOf_eq_map (g : P → Params → Except ProcessError Processor) (registry : Registry P)
    (index : Nat) (entry : RouteConfig) :
    routeOf g registry index entry =
      (Id.run (Route.buildProcessors (fun c params => pure (g c params)) registry 0
        entry.processors)).map fun processors => ⟨index, entry.input, processors, entry.output⟩ := by
  simp only [routeOf, Route.buildWith, Id.run_bind]
  cases Id.run (Route.buildProcessors (fun c params => pure (g c params)) registry 0
    entry.processors) with
  | ok processors => rfl
  | error fault => rfl

/-- A route is built at every place or at none. -/
theorem routeOf_renumber (h : Nat → Nat) (g : P → Params → Except ProcessError Processor)
    (registry : Registry P) (index : Nat) (entry : RouteConfig) :
    routeOf g registry (h index) entry = (routeOf g registry index entry).map (Route.renumber h) := by
  rw [routeOf_eq_map, routeOf_eq_map]
  cases Id.run (Route.buildProcessors (fun c params => pure (g c params)) registry 0
    entry.processors) with
  | ok processors => rfl
  | error fault => rfl

theorem index_of_routeOf {route : Route} (h : routeOf g registry index entry = .ok route) :
    route.index = index := by
  rw [routeOf_eq_map] at h
  obtain ⟨processors, -, rfl⟩ := Except.map_eq_ok_iff.1 h
  rfl

theorem routesOf_of_ok {route : Route} (h : routeOf g registry index entry = .ok route) :
    routesOf g registry index (entry :: rest) =
      let later := routesOf g registry (index + 1) rest
      { later with built := route :: later.built } := by
  rw [routeOf] at h
  simp only [routesOf, buildRoutes, Id.run_bind, h]
  rfl

theorem routesOf_of_error {fault : RouteFault} (h : routeOf g registry index entry = .error fault) :
    routesOf g registry index (entry :: rest) =
      let later := routesOf g registry (index + 1) rest
      { later with errors := ⟨index, entry.input, entry.output, fault⟩ :: later.errors } := by
  rw [routeOf] at h
  simp only [routesOf, buildRoutes, Id.run_bind, h]
  rfl

/-- Routes that are one place lower come to the same, one place lower. -/
theorem routesOf_lower (h : i ≤ index) (entries : List RouteConfig) :
    routesOf g registry index entries =
      ⟨(routesOf g registry (index + 1) entries).built.map (Route.renumber (lower i)),
        (routesOf g registry (index + 1) entries).errors.map (RouteLoadError.renumber (lower i))⟩ := by
  induction entries generalizing index with
  | nil => rfl
  | cons entry rest ih =>
    have hlower := routeOf_renumber (lower i) g registry (index + 1) entry
    rw [lower_succ h] at hlower
    cases hentry : routeOf g registry (index + 1) entry with
    | ok route =>
      rw [hentry] at hlower
      rw [routesOf_of_ok hlower, routesOf_of_ok hentry, ih (Nat.le_succ_of_le h)]
      rfl
    | error fault =>
      rw [hentry] at hlower
      rw [routesOf_of_error hlower, routesOf_of_error hentry, ih (Nat.le_succ_of_le h)]
      simp only [List.map_cons, RouteLoadError.renumber, lower_succ h]

/-- Without a route that is rejected the others come to the same, those after it one place lower. -/
theorem routesOf_eraseIdx {entries : List RouteConfig} {e : RouteLoadError}
    (he : e ∈ (routesOf g registry index entries).errors) :
    ∃ k before after, e.index = index + k ∧
      (routesOf g registry index entries).errors = before ++ e :: after ∧
      routesOf g registry index (entries.eraseIdx k) =
        ⟨(routesOf g registry index entries).built.map (Route.renumber (lower e.index)),
          (before ++ after).map (RouteLoadError.renumber (lower e.index))⟩ := by
  induction entries generalizing index with
  | nil => nomatch he
  | cons entry rest ih =>
    cases hentry : routeOf g registry index entry with
    | ok route =>
      rw [routesOf_of_ok hentry] at he
      obtain ⟨k, before, after, hindex, herrors, hrest⟩ := ih he
      refine ⟨k + 1, before, after, by omega, ?_, ?_⟩
      · rw [routesOf_of_ok hentry]
        exact herrors
      · have hlower : lower e.index route.index = route.index :=
          lower_of_le (by rw [index_of_routeOf hentry]; omega)
        rw [List.eraseIdx_cons_succ, routesOf_of_ok hentry, routesOf_of_ok hentry, hrest]
        simp only [List.map_cons, Route.renumber, hlower]
    | error fault =>
      rw [routesOf_of_error hentry] at he
      rcases List.mem_cons.1 he with rfl | he
      · refine ⟨0, [], (routesOf g registry (index + 1) rest).errors, rfl, ?_, ?_⟩
        · rw [routesOf_of_error hentry]
          rfl
        · rw [List.eraseIdx_cons_zero, routesOf_of_error hentry, routesOf_lower le_rfl]
          rfl
      · obtain ⟨k, before, after, hindex, herrors, hrest⟩ := ih he
        refine ⟨k + 1, ⟨index, entry.input, entry.output, fault⟩ :: before, after, by omega, ?_, ?_⟩
        · rw [routesOf_of_error hentry]
          exact congrArg (List.cons _) herrors
        · have hlower : lower e.index index = index := lower_of_le (by omega)
          rw [List.eraseIdx_cons_succ, routesOf_of_error hentry, routesOf_of_error hentry, hrest]
          simp only [List.cons_append, List.map_cons, RouteLoadError.renumber, hlower]

end Routes

/-! ## The whole configuration -/

section

variable {C P M : Type}

/-- What is told of the building when some has been told of the modules that have been built. -/
def tells (a : Assembly M) (created : List LogEntry) : List LogEntry :=
  created ++ a.router.routes.filterMap (warnUnknown a.router.modules) ++
    a.moduleErrors.map (fun e => warnSkipped e.message) ++
    a.routeErrors.map fun e => warnSkipped e.message

/-- The router of modules and routes, with what is missing in it. -/
def ofParts (modules : Modules M) (routes : Routes) : Assembly M where
  router := ⟨modules.built, routes.built⟩
  moduleErrors := modules.errors
  routeErrors := routes.errors
  log := tells ⟨⟨modules.built, routes.built⟩, modules.errors, routes.errors, []⟩ modules.log

theorem ofFunctions_eq_ofParts (f : C → ModuleConfig → Except ModuleError M)
    (g : P → Params → Except ProcessError Processor) (modules : Registry C)
    (processors : Registry P) (config : Config) :
    ofFunctions f g modules processors config =
      ofParts (modulesOf f modules 0 [] config.modules)
        (routesOf g processors 0 config.routes) := rfl

/-- `b` is `a` without the entry of a module that has been rejected with `e`. The verdict on every
other entry is the same, so that each module is built of the same entry. The modules and the routes
are the same. The other errors are the same, those after it one place lower. The errors of the
routes are the same. Whatever comes in comes to the same outcomes, deliveries and modules. The same
is told of the modules that are built, and the rest is told of the same errors. -/
structure WithoutModule (f : C → ModuleConfig → Except ModuleError M) (registry : Registry C)
    (entries : List ModuleConfig) (e : ModuleLoadError) (a b : Assembly M) : Prop where
  verdicts : ∃ verdict, verdict e.index = .error e.fault ∧
    ModulePartition (σ := Unit) (fun c entry => pure (f c entry)) registry entries verdict
      (fun _ => ()) a.router.modules a.moduleErrors ∧
    ModulePartition (σ := Unit) (fun c entry => pure (f c entry)) registry
      (entries.eraseIdx e.index) (verdict ∘ raise e.index) (fun _ => ()) b.router.modules
      b.moduleErrors
  router : b.router = a.router
  moduleErrors : ∃ before after, a.moduleErrors = before ++ e :: after ∧
    b.moduleErrors = (before ++ after).map (ModuleLoadError.renumber (lower e.index))
  routeErrors : b.routeErrors = a.routeErrors
  handled : ∀ output inputs, b.router.handleAll output inputs = a.router.handleAll output inputs
  log : ∃ created, a.log = a.tells created ∧ b.log = b.tells created

/-- `b` is `a` without the entry of a route that has been rejected with `e`. The modules are the
same. Their errors are the same. The routes are the same, those after it one place lower. The other
errors are the same, those after it one place lower. Whatever comes in comes to the same deliveries
and modules, and to the same outcomes with the routes after it one place lower. The same is told of
the modules that are built, and the rest is told of the routes where they are now. -/
structure WithoutRoute (e : RouteLoadError) (a b : Assembly M) : Prop where
  modules : b.router.modules = a.router.modules
  moduleErrors : b.moduleErrors = a.moduleErrors
  routes : b.router.routes = a.router.routes.map (Route.renumber (lower e.index))
  routeErrors : ∃ before after, a.routeErrors = before ++ e :: after ∧
    b.routeErrors = (before ++ after).map (RouteLoadError.renumber (lower e.index))
  handled : ∀ output inputs, b.router.handleAll output inputs =
    ((a.router.handleAll output inputs).1.map (Handled.renumber (lower e.index)),
      (a.router.handleAll output inputs).2.renumber (lower e.index))
  log : ∃ created, a.log = a.tells created ∧ b.log = b.tells created

/-- **An entry that is rejected has no effect** but for its error, whatever the registries and the
constructors, as long as these are functions of the entries that they are given. -/
theorem deleting_rejected (f : C → ModuleConfig → Except ModuleError M)
    (g : P → Params → Except ProcessError Processor) (modules : Registry C)
    (processors : Registry P) (config : Config) :
    let build := ofFunctions f g modules processors
    (∀ e ∈ (build config).moduleErrors,
      WithoutModule f modules config.modules e (build config)
        (build { config with modules := config.modules.eraseIdx e.index })) ∧
    ∀ e ∈ (build config).routeErrors,
      WithoutRoute e (build config)
        (build { config with routes := config.routes.eraseIdx e.index }) := by
  intro build
  refine ⟨?_, ?_⟩
  · intro e he
    obtain ⟨verdict, _, hparts⟩ := ofFunctions_partition f g modules processors config
    obtain ⟨k, before, after, hindex, herrors, herase⟩ := modulesOf_eraseIdx he
    obtain rfl : k = e.index := by omega
    have hwithout : build { config with modules := config.modules.eraseIdx e.index } =
        ofParts { modulesOf f modules 0 [] config.modules with
          errors := (before ++ after).map (ModuleLoadError.renumber (lower e.index)) }
          (routesOf g processors 0 config.routes) := by
      rw [← herase]
      exact ofFunctions_eq_ofParts f g modules processors _
    have hbefore : (ofFunctions f g modules processors config).moduleErrors =
        before ++ e :: after := herrors
    have hmodules := hparts.modules
    obtain ⟨-, -, -, hfault⟩ := (hmodules.rejected e).1 he
    rw [hwithout]
    refine ⟨⟨verdict, hfault, hmodules, ?_⟩, rfl, ⟨before, after, hbefore, rfl⟩, rfl,
      fun _ _ => rfl, _, rfl, rfl⟩
    rw [hbefore] at hmodules
    exact hmodules.eraseIdx
  · intro e he
    obtain ⟨k, before, after, hindex, herrors, herase⟩ := routesOf_eraseIdx he
    obtain rfl : k = e.index := by omega
    have hwithout : build { config with routes := config.routes.eraseIdx e.index } =
        ofParts (modulesOf f modules 0 [] config.modules)
          ⟨(routesOf g processors 0 config.routes).built.map (Route.renumber (lower e.index)),
            (before ++ after).map (RouteLoadError.renumber (lower e.index))⟩ := by
      rw [← herase]
      exact ofFunctions_eq_ofParts f g modules processors _
    rw [hwithout]
    refine ⟨rfl, rfl, rfl, ⟨before, after, herrors, rfl⟩, ?_, _, rfl, rfl⟩
    intro output inputs
    exact (build config).router.handleAll_renumber (lower e.index) output inputs

/-- A configuration with a duplicate between a module without an id and one of an unknown type, and
with a route through an unknown processor before one that leads nowhere. Without the duplicate or
without the first route the other errors are one place lower, and so is the route that fails. -/
theorem deleting_rejected_duplicate :
    let config : Config := {
      modules := [.ofType "sink" "test.mock", .ofType "" "test.mock", .ofType "sink" "test.mock",
        .ofType "lost" "no.such"]
      routes := [.withProcessor (.between "in" "sink") (.ofType "no.such"), .between "in" "sink",
        .between "in" "lost"] }
    let build := ofFunctions (fun (c : ModuleConstructor) entry => c entry)
      (fun (c : ProcessorConstructor) params => c params) Registries.all.modules
      Registries.all.processors
    let e : ModuleLoadError := ⟨2, "sink", .duplicateId "sink"⟩
    let e' : RouteLoadError := ⟨0, "in", "sink", .unknownProcessor 0 "no.such"⟩
    let b := build { config with modules := config.modules.eraseIdx 2 }
    let b' := build { config with routes := config.routes.eraseIdx 0 }
    let output := Module.output .isolated
    (e ∈ (build config).moduleErrors ∧
      WithoutModule (fun (c : ModuleConstructor) entry => c entry) Registries.all.modules
        config.modules e (build config) b ∧
      b.moduleErrors = [⟨1, "", .emptyId⟩, ⟨2, "lost", .unknownType "no.such"⟩]) ∧
    (e' ∈ (build config).routeErrors ∧ WithoutRoute e' (build config) b' ∧
      ((build config).router.dispatch output "in" (.text "x")).1 =
        some ⟨true, [⟨2, "in", "lost", .output (.noModule "lost")⟩]⟩ ∧
      (b'.router.dispatch output "in" (.text "x")).1 =
        some ⟨true, [⟨1, "in", "lost", .output (.noModule "lost")⟩]⟩) := by
  intro config build e e' b b' output
  have he : e ∈ (build config).moduleErrors := .tail _ (.head _)
  have he' : e' ∈ (build config).routeErrors := .head _
  obtain ⟨hmodules, hroutes⟩ := deleting_rejected (fun (c : ModuleConstructor) entry => c entry)
    (fun (c : ProcessorConstructor) params => c params) Registries.all.modules
    Registries.all.processors config
  exact ⟨⟨he, hmodules e he, by decide +kernel⟩, he', hroutes e' he', by decide +kernel,
    by decide +kernel⟩

end

end Assembly

end Switchboard
