import Switchboard.Proofs.Processor.Crash
import Switchboard.Proofs.Router.Dispatch

/-!
# Events that end the task of their source

An event ends the task that sends it when a processor of one of its routes does, which needs an
expression that comes to a call that ends the program. Nothing else that the library can put on a
route is a danger to the task, for no payload.
-/

namespace Switchboard

open Expression (fatalFunctions)

theorem Route.crashes_iff {route : Route} {p : Payload} :
    route.crashes p = true ↔ (route.run p).1 = .crashed := by
  unfold crashes
  split
  case h_1 h => exact iff_of_true rfl h
  case h_2 h => exact iff_of_false nofun fun hcrashed => h hcrashed

theorem ProcessorConfig.EndsTask.exists_fatal {given : ProcessorConfig} {p : Payload}
    (h : given.EndsTask p) :
    ∃ tree, given.IsExpression tree ∧ ∃ name ∈ tree.functions, name ∈ fatalFunctions := by
  obtain ⟨tree, value, name, v, htree, -, hcalls, hv⟩ := h
  exact ⟨tree, htree, name, hcalls.mem_functions, hv.mem_fatalFunctions⟩

namespace Assembly

/-- When a payload ends a task, in a program with the given registries and a router of the given
configuration. A step ends the task that runs it when it evaluates an expression that, for the
payload, comes to a call that ends the program. An event ends the task of its source when it reaches
such a step on a route of the source. The answers of the modules do not matter. If no expression
calls one of four functions, then every source learns of all its events. -/
structure EndsTasksByCalls (registries : Registries) (config : Config) : Prop where
  step : ∀ given processor, registries.processors.Makes given processor →
    ∀ p, (processor.process p).1 = .crashed ↔ given.EndsTask p
  event : ∀ (output : Outlet Module) (source : String) (p : Payload),
    ((ofConfig registries config).router.dispatch output source p).1 = none ↔
      ∃ route ∈ (ofConfig registries config).router.routes, route.input = source ∧
        ∃ entry, config.routes[route.index]? = some entry ∧
          ∃ (k : Nat) (given : ProcessorConfig) (q : Payload), entry.processors[k]? = some given ∧
            (Route.runProcessors (route.processors.take k) p).1 = .passed q ∧ given.EndsTask q
  safe : (∀ entry ∈ config.routes, ∀ given ∈ entry.processors, ∀ tree, given.IsExpression tree →
      ∀ name ∈ tree.functions, name ∉ fatalFunctions) →
    ∀ (output : Outlet Module) (source : String) (p : Payload),
      ∃ o, ((ofConfig registries config).router.dispatch output source p).1 = some o

/-- A route of the router ends the task when it comes to a step that does, if the entries of the
steps tell which do. -/
theorem crashes_iff_of_mem_routes {registries : Registries} {config : Config}
    {ends : ProcessorConfig → Payload → Prop}
    (hstep : ∀ given processor, registries.processors.Makes given processor →
      ∀ p, (processor.process p).1 = .crashed ↔ ends given p)
    {route : Route} (hroute : route ∈ (ofConfig registries config).router.routes) {p : Payload} :
    route.crashes p = true ↔ ∃ entry, config.routes[route.index]? = some entry ∧
      ∃ (k : Nat) (given : ProcessorConfig) (q : Payload), entry.processors[k]? = some given ∧
        (Route.runProcessors (route.processors.take k) p).1 = .passed q ∧ ends given q := by
  obtain ⟨entry, hentry, hbuild⟩ := exists_build_of_mem_routes hroute
  have hmakes := Route.makes_of_build hbuild
  rw [Route.crashes_iff, Route.run, Route.runProcessors_eq_crashed_iff]
  constructor
  · rintro ⟨k, processor, q, hprocessor, hpassed, hcrashed⟩
    obtain ⟨given, hgiven, hmade⟩ := exists_getElem?_of_forall₂ hmakes.flip hprocessor
    exact ⟨entry, hentry, k, given, q, hgiven, hpassed, (hstep _ _ hmade q).1 hcrashed⟩
  · rintro ⟨entry', hentry', k, given, q, hgiven, hpassed, hends⟩
    obtain rfl := Option.some.inj (hentry.symm.trans hentry')
    obtain ⟨processor, hprocessor, hmade⟩ := exists_getElem?_of_forall₂ hmakes hgiven
    exact ⟨k, processor, q, hprocessor, hpassed, (hstep _ _ hmade q).2 hends⟩

/-- **Only four functions of expressions end a task**, whatever the payload and the configuration,
when the processors are those of the library. -/
theorem endsTasksByCalls (modules : Registry ModuleConstructor) (config : Config) :
    EndsTasksByCalls ⟨modules, Registries.builtins.processors⟩ config := by
  generalize hregistries : (⟨modules, Registries.builtins.processors⟩ : Registries) = registries
  have hstep : ∀ given processor, registries.processors.Makes given processor →
      ∀ p, (processor.process p).1 = .crashed ↔ given.EndsTask p := by
    subst hregistries
    exact fun _ _ hmakes p => ProcessorConfig.crashed_iff hmakes p
  have hevent : ∀ (output : Outlet Module) (source : String) (p : Payload),
      ((ofConfig registries config).router.dispatch output source p).1 = none ↔
        ∃ route ∈ (ofConfig registries config).router.routes, route.input = source ∧
          ∃ entry, config.routes[route.index]? = some entry ∧
            ∃ (k : Nat) (given : ProcessorConfig) (q : Payload),
              entry.processors[k]? = some given ∧
                (Route.runProcessors (route.processors.take k) p).1 = .passed q ∧
                given.EndsTask q := by
    intro output source p
    rw [Router.dispatch_eq_none_iff]
    constructor
    · rintro ⟨route, hroute, hinput, hcrashes⟩
      exact ⟨route, hroute, hinput, (crashes_iff_of_mem_routes hstep hroute).1 hcrashes⟩
    · rintro ⟨route, hroute, hinput, hends⟩
      exact ⟨route, hroute, hinput, (crashes_iff_of_mem_routes hstep hroute).2 hends⟩
  constructor
  case step => exact hstep
  case event => exact hevent
  case safe =>
    intro hsafe output source p
    rw [← Option.isSome_iff_exists, Option.isSome_iff_ne_none, ne_eq, hevent]
    rintro ⟨route, -, -, entry, hentry, k, given, q, hgiven, -, hends⟩
    obtain ⟨tree, htree, name, hname, hfatal⟩ := hends.exists_fatal
    exact hsafe entry (List.mem_of_getElem? hentry) given (List.mem_of_getElem? hgiven) tree htree
      name hname hfatal

/-- A text of one character of two bytes ends the task when an expression asks for what follows its
first byte. -/
theorem substring_ends_task :
    let given : ProcessorConfig := .withParams (.ofType "expr.evaluate")
      ⟨[("expression", .string "str::substring(x, 1)")]⟩
    let config : Config := {
      modules := [.ofType "sink" "test.mock"]
      routes := [.withProcessor (.between "in" "sink") given] }
    let r := (ofConfig ⟨Registries.all.modules, Registries.builtins.processors⟩ config).router
    (r.routes.map fun route => (route.index, route.crashes (.text "é"))) = [(0, true)] ∧
      (r.dispatch (Module.output .isolated) "in" (.text "é")).1 = none ∧
      (r.dispatch (Module.output .isolated) "in" (.text "e")).1 = some ⟨true, []⟩ := by
  decide +kernel

end Assembly

end Switchboard
