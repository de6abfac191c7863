import Mathlib.Logic.Function.Basic
import Switchboard.Proofs.Table
import Switchboard.Router.Assembly

/-!
# The places of the entries of a configuration

Every entry of a configuration finds exactly one place, in the router or among the errors. Which it
is depends for a module on the entries before it, so that the verdict on an entry is said in terms
of the verdicts before it; constructors may have effects, and the verdict says which are called.
Each list of entries is built one entry after the other, and one more entry keeps those before it
where they are.
-/

namespace Switchboard

namespace Assembly

section Effects

variable {C P M σ : Type}

/-! ## The verdict on a module -/

/-- What becomes of an entry when modules of some ids have been retained before it: the first fault
that applies, or the module that its constructor makes. The constructor is called when no fault
applies before, and only then does the state of the constructors change. -/
inductive Judged (construct : C → ModuleConfig → StateM σ (Except ModuleError M))
    (registry : Registry C) (retained : String → Prop) (entry : ModuleConfig) (s : σ) :
    Except ModuleFault M → σ → Prop where
  | emptyId (hid : entry.id = "") : Judged construct registry retained entry s (.error .emptyId) s
  | duplicateId (hid : entry.id ≠ "") (hretained : retained entry.id) :
      Judged construct registry retained entry s (.error (.duplicateId entry.id)) s
  | unknownType (hid : entry.id ≠ "") (hnew : ¬ retained entry.id)
      (hlookup : registry.lookup entry.type = none) :
      Judged construct registry retained entry s (.error (.unknownType entry.type)) s
  | construction {constructor : C} {e : ModuleError} {s' : σ} (hid : entry.id ≠ "")
      (hnew : ¬ retained entry.id) (hlookup : registry.lookup entry.type = some constructor)
      (hcall : (construct constructor entry).run s = (.error e, s')) :
      Judged construct registry retained entry s (.error (.construction e)) s'
  | built {constructor : C} {made : M} {s' : σ} (hid : entry.id ≠ "")
      (hnew : ¬ retained entry.id) (hlookup : registry.lookup entry.type = some constructor)
      (hcall : (construct constructor entry).run s = (.ok made, s')) :
      Judged construct registry retained entry s (.ok made) s'

variable {construct : C → ModuleConfig → StateM σ (Except ModuleError M)} {registry : Registry C}
variable {retained : String → Prop} {entry : ModuleConfig} {s s' : σ} {built : Table M}

theorem judged_buildModule (construct : C → ModuleConfig → StateM σ (Except ModuleError M))
    (registry : Registry C) (entry : ModuleConfig) (s : σ)
    (hretained : ∀ id, (built.find? id).isSome = true ↔ retained id) :
    Judged construct registry retained entry s
      ((buildModule construct registry built entry).run s).1
      ((buildModule construct registry built entry).run s).2 := by
  simp only [buildModule]
  split
  · next hid => exact .emptyId hid
  · next hid =>
    split
    · next hdup => exact .duplicateId hid ((hretained _).1 hdup)
    · next hdup =>
      have hnew : ¬ retained entry.id := fun h => hdup ((hretained _).2 h)
      split
      · next hlookup => exact .unknownType hid hnew hlookup
      · next constructor hlookup =>
        cases hcall : (construct constructor entry).run s with
        | mk answer s' =>
          cases answer with
          | ok made =>
            simp only [StateT.run_bind, hcall]
            exact .built hid hnew hlookup hcall
          | error e =>
            simp only [StateT.run_bind, hcall]
            exact .construction hid hnew hlookup hcall

/-! ## The verdicts on all modules -/

/-- Whether an entry before a place is retained under an id. -/
def RetainedBefore (entries : List ModuleConfig) (verdict : Nat → Except ModuleFault M) (k : Nat)
    (id : String) : Prop :=
  ∃ j < k, ∃ entry made, entries[j]? = some entry ∧ entry.id = id ∧ verdict j = .ok made

/-- The modules of a configuration in their places: `verdict` says what becomes of each entry and
`state` in which state the constructors are before it. Each entry is judged by what has been
retained before it. An entry that is built is retained under its id, and nothing else is. An entry
that is not built is an error with its place and id, and nothing else is. The ids increase strictly.
The places of the errors increase strictly. Nothing is lost. -/
structure ModulePartition (construct : C → ModuleConfig → StateM σ (Except ModuleError M))
    (registry : Registry C) (entries : List ModuleConfig) (verdict : Nat → Except ModuleFault M)
    (state : Nat → σ) (built : Table M) (errors : List ModuleLoadError) : Prop where
  judged : ∀ k entry, entries[k]? = some entry →
    Judged construct registry (RetainedBefore entries verdict k) entry (state k) (verdict k)
      (state (k + 1))
  retained : ∀ id made, built.find? id = some made ↔
    ∃ k entry, entries[k]? = some entry ∧ entry.id = id ∧ verdict k = .ok made
  rejected : ∀ e, e ∈ errors ↔
    ∃ entry, entries[e.index]? = some entry ∧ e.id = entry.id ∧ verdict e.index = .error e.fault
  sorted : built.Sorted
  increasing : errors.Pairwise fun e f => e.index < f.index
  count : built.length + errors.length = entries.length

/-! ## One more entry -/

/-- What is said of the entries of a list and of values at their places, when there is one more. -/
theorem exists_getElem?_concat_iff {α β : Type} (P : α → β → Prop) {xs : List α} {y : α}
    {f : Nat → β} {v : β} {k : Nat} :
    (∃ x, (xs ++ [y])[k]? = some x ∧ P x (Function.update f xs.length v k)) ↔
      (∃ x, xs[k]? = some x ∧ P x (f k)) ∨ k = xs.length ∧ P y v := by
  rcases lt_trichotomy k xs.length with hlt | rfl | hgt
  · rw [List.getElem?_append_left hlt, Function.update_of_ne hlt.ne]
    simp [hlt.ne]
  · simp
  · have hlen : (xs ++ [y]).length ≤ k := by
      rw [List.length_append, List.length_singleton]
      exact hgt
    simp [List.getElem?_eq_none hlen, List.getElem?_eq_none hgt.le, hgt.ne']

/-- What is said of each entry of a list with the states around it, when there is one more. -/
theorem forall_getElem?_concat {α β τ : Type} {Q : Nat → α → τ → β → τ → Prop} {xs : List α} {y : α}
    {f : Nat → β} {v : β} {state : Nat → τ} {s' : τ}
    (h : ∀ k x, xs[k]? = some x → Q k x (state k) (f k) (state (k + 1)))
    (hlast : Q xs.length y (state xs.length) v s') (k : Nat) (x : α)
    (hx : (xs ++ [y])[k]? = some x) :
    Q k x (Function.update state (xs.length + 1) s' k) (Function.update f xs.length v k)
      (Function.update state (xs.length + 1) s' (k + 1)) := by
  obtain ⟨hk, -⟩ := List.getElem?_eq_some_iff.1 hx
  rw [List.length_append, List.length_singleton] at hk
  rw [Function.update_of_ne hk.ne]
  by_cases hend : k = xs.length
  · subst hend
    rw [List.getElem?_concat_length] at hx
    obtain rfl := Option.some.inj hx
    rw [Function.update_self, Function.update_self]
    exact hlast
  · have hlt : k < xs.length := Nat.lt_of_le_of_ne (Nat.le_of_lt_succ hk) hend
    rw [List.getElem?_append_left hlt] at hx
    rw [Function.update_of_ne hend, Function.update_of_ne (by omega)]
    exact h k x hx

/-- Places that increase strictly do so with one more at the end. -/
theorem pairwise_concat_of_lt {α : Type} {place : α → Nat} {xs : List α} {y : α}
    (h : xs.Pairwise fun x x' => place x < place x') (hlt : ∀ x ∈ xs, place x < place y) :
    (xs ++ [y]).Pairwise fun x x' => place x < place x' := by
  rw [List.pairwise_append]
  refine ⟨h, List.pairwise_singleton _ _, fun x hx z hz => ?_⟩
  rw [List.mem_singleton.1 hz]
  exact hlt x hx

theorem retainedBefore_concat {entries : List ModuleConfig} {verdict : Nat → Except ModuleFault M}
    {v : Except ModuleFault M} {k : Nat} (hk : k ≤ entries.length) :
    RetainedBefore (entries ++ [entry]) (Function.update verdict entries.length v) k =
      RetainedBefore entries verdict k := by
  funext id
  refine propext (exists_congr fun j => and_congr_right fun hj => ?_)
  have hlt : j < entries.length := Nat.lt_of_lt_of_le hj hk
  rw [Function.update_of_ne hlt.ne, List.getElem?_append_left hlt]

namespace ModulePartition

variable {entries : List ModuleConfig} {verdict : Nat → Except ModuleFault M} {state : Nat → σ}
variable {errors : List ModuleLoadError}

theorem isSome_find?_iff
    (h : ModulePartition construct registry entries verdict state built errors) (id : String) :
    (built.find? id).isSome = true ↔ RetainedBefore entries verdict entries.length id := by
  rw [Option.isSome_iff_exists]
  constructor
  · rintro ⟨made, hfind⟩
    obtain ⟨k, entry, hentry, hid, hverdict⟩ := (h.retained id made).1 hfind
    obtain ⟨hk, -⟩ := List.getElem?_eq_some_iff.1 hentry
    exact ⟨k, hk, entry, made, hentry, hid, hverdict⟩
  · rintro ⟨k, -, entry, made, hentry, hid, hverdict⟩
    exact ⟨made, (h.retained id made).2 ⟨k, entry, hentry, hid, hverdict⟩⟩

theorem nil (construct : C → ModuleConfig → StateM σ (Except ModuleError M))
    (registry : Registry C) (verdict : Nat → Except ModuleFault M) (state : Nat → σ) :
    ModulePartition construct registry [] verdict state [] [] where
  judged := nofun
  retained := by simp
  rejected := by simp
  sorted := Table.sorted_nil
  increasing := .nil
  count := rfl

/-- The judgements when one more entry has been judged. -/
theorem judged_concat
    (h : ModulePartition construct registry entries verdict state built errors)
    {v : Except ModuleFault M}
    (hj : Judged construct registry (RetainedBefore entries verdict entries.length) entry
      (state entries.length) v s') (k : Nat) (next : ModuleConfig)
    (hnext : (entries ++ [entry])[k]? = some next) :
    Judged construct registry
      (RetainedBefore (entries ++ [entry]) (Function.update verdict entries.length v) k) next
      (Function.update state (entries.length + 1) s' k)
      (Function.update verdict entries.length v k)
      (Function.update state (entries.length + 1) s' (k + 1)) := by
  refine forall_getElem?_concat (Q := fun k entry s v s' => Judged construct registry
    (RetainedBefore _ _ k) entry s v s') (fun j other hother => ?_) ?_ k next hnext
  · rw [retainedBefore_concat (List.getElem?_eq_some_iff.1 hother).1.le]
    exact h.judged j other hother
  · rw [retainedBefore_concat le_rfl]
    exact hj

/-- One more module is built. -/
theorem concat_ok (h : ModulePartition construct registry entries verdict state built errors)
    {made : M}
    (hj : Judged construct registry (RetainedBefore entries verdict entries.length) entry
      (state entries.length) (.ok made) s') :
    ModulePartition construct registry (entries ++ [entry])
      (Function.update verdict entries.length (.ok made))
      (Function.update state (entries.length + 1) s') (built.insert entry.id made) errors := by
  have hnew : built.find? entry.id = none := by
    cases hj with
    | built _ hnew =>
      rw [← h.isSome_find?_iff] at hnew
      simpa using hnew
  refine ⟨h.judged_concat hj, fun id other => ?_, fun e => ?_, Table.sorted_insert h.sorted,
    h.increasing, ?_⟩
  · simp only [exists_getElem?_concat_iff fun (entry : ModuleConfig) (v : Except ModuleFault M) =>
      entry.id = id ∧ v = .ok other]
    rw [exists_or, ← h.retained, exists_eq_left, Table.find?_insert]
    by_cases hid : entry.id = id
    · subst hid
      rw [if_pos rfl, hnew]
      simp
    · rw [if_neg hid]
      simp [hid]
  · rw [exists_getElem?_concat_iff fun (entry : ModuleConfig) (v : Except ModuleFault M) =>
      e.id = entry.id ∧ v = .error e.fault,
      ← h.rejected]
    simp
  · rw [Table.length_insert (Table.find?_eq_none_iff.1 hnew), List.length_append,
      List.length_singleton, ← h.count]
    omega

/-- One more module is left out. -/
theorem concat_error (h : ModulePartition construct registry entries verdict state built errors)
    {fault : ModuleFault}
    (hj : Judged construct registry (RetainedBefore entries verdict entries.length) entry
      (state entries.length) (.error fault) s') :
    ModulePartition construct registry (entries ++ [entry])
      (Function.update verdict entries.length (.error fault))
      (Function.update state (entries.length + 1) s') built
      (errors ++ [⟨entries.length, entry.id, fault⟩]) := by
  refine ⟨h.judged_concat hj, fun id other => ?_, fun e => ?_, h.sorted, ?_, ?_⟩
  · simp only [exists_getElem?_concat_iff fun (entry : ModuleConfig) (v : Except ModuleFault M) =>
      entry.id = id ∧ v = .ok other]
    rw [exists_or, ← h.retained]
    simp
  · rw [exists_getElem?_concat_iff fun (entry : ModuleConfig) (v : Except ModuleFault M) =>
      e.id = entry.id ∧ v = .error e.fault,
      List.mem_append, ← h.rejected, List.mem_singleton]
    obtain ⟨index, id, fault'⟩ := e
    simp [eq_comm]
  · refine pairwise_concat_of_lt h.increasing fun e he => ?_
    obtain ⟨entry', hentry, -⟩ := (h.rejected e).1 he
    exact (List.getElem?_eq_some_iff.1 hentry).1
  · have hcount := h.count
    simp only [List.length_append, List.length_singleton]
    omega

end ModulePartition

theorem run_buildModules_of_ok (index : Nat) {made : M}
    (h : (buildModule construct registry built entry).run s = (.ok made, s'))
    (rest : List ModuleConfig) :
    (buildModules construct registry index built (entry :: rest)).run s =
      let later :=
        (buildModules construct registry (index + 1) (built.insert entry.id made) rest).run s'
      let told := "Module " ++ entry.id ++ " (" ++ entry.type ++ ") created"
      ({ later.1 with log := ⟨.info, told⟩ :: later.1.log }, later.2) := by
  simp only [buildModules, StateT.run_bind, h]
  rfl

theorem run_buildModules_of_error (index : Nat) {fault : ModuleFault}
    (h : (buildModule construct registry built entry).run s = (.error fault, s'))
    (rest : List ModuleConfig) :
    (buildModules construct registry index built (entry :: rest)).run s =
      let later := (buildModules construct registry (index + 1) built rest).run s'
      ({ later.1 with errors := ⟨index, entry.id, fault⟩ :: later.1.errors }, later.2) := by
  simp only [buildModules, StateT.run_bind, h]
  rfl

/-- Building more modules keeps each in its place. -/
theorem buildModules_partition {verdict : Nat → Except ModuleFault M} {state : Nat → σ}
    {errors : List ModuleLoadError} {done : List ModuleConfig}
    (h : ModulePartition construct registry done verdict state built errors)
    (rest : List ModuleConfig) :
    ∃ verdict' state', state' 0 = state 0 ∧
      let out := (buildModules construct registry done.length built rest).run (state done.length)
      state' (done ++ rest).length = out.2 ∧
      ModulePartition construct registry (done ++ rest) verdict' state' out.1.built
        (errors ++ out.1.errors) := by
  induction rest generalizing done verdict state built errors with
  | nil =>
    refine ⟨verdict, state, rfl, ?_, ?_⟩
    · rw [List.append_nil]
      rfl
    · rw [List.append_nil]
      change ModulePartition construct registry done verdict state built (errors ++ [])
      rw [List.append_nil]
      exact h
  | cons entry rest ih =>
    have hlen : (done ++ [entry]).length = done.length + 1 := by
      rw [List.length_append, List.length_singleton]
    have hj := judged_buildModule construct registry entry (state done.length) h.isSome_find?_iff
    rw [List.append_cons]
    obtain ⟨⟨answer, s'⟩, hrun⟩ : ∃ result,
      (buildModule construct registry built entry).run (state done.length) = result := ⟨_, rfl⟩
    rw [hrun] at hj
    have hnow : Function.update state (done.length + 1) s' (done.length + 1) = s' :=
      Function.update_self _ _ _
    have hfirst : Function.update state (done.length + 1) s' 0 = state 0 :=
      Function.update_of_ne (Nat.succ_ne_zero _).symm _ _
    cases answer with
    | ok made =>
      obtain ⟨verdict', state', h0, hlater⟩ := ih (h.concat_ok hj)
      have hout := run_buildModules_of_ok done.length hrun rest
      rw [hlen, hnow] at hlater
      refine ⟨verdict', state', h0.trans hfirst, ?_⟩
      rw [hout]
      exact hlater
    | error fault =>
      obtain ⟨verdict', state', h0, hlater⟩ := ih (h.concat_error hj)
      have hout := run_buildModules_of_error done.length hrun rest
      rw [hlen, hnow] at hlater
      refine ⟨verdict', state', h0.trans hfirst, ?_⟩
      rw [hout]
      dsimp only at hlater ⊢
      rw [List.append_cons errors]
      exact hlater

/-! ## Routes -/

/-- The routes of a configuration in their places: `verdict` says what becomes of each entry and
`state` in which state the constructors are before it. Each entry is compiled at its place. An entry
that compiles is retained with its place, source and destination, and nothing else is. An entry that
does not compile is an error with its place, source and destination, and nothing else is. The routes
are in the order of the configuration. The places of the errors increase strictly. Nothing is lost.
-/
structure RoutePartition (construct : P → Params → StateM σ (Except ProcessError Processor))
    (registry : Registry P) (entries : List RouteConfig) (verdict : Nat → Except RouteFault Route)
    (state : Nat → σ) (built : List Route) (errors : List RouteLoadError) : Prop where
  compiled : ∀ k entry, entries[k]? = some entry →
    (Route.buildWith construct registry k entry).run (state k) = (verdict k, state (k + 1))
  retained : ∀ route, route ∈ built ↔
    ∃ entry, entries[route.index]? = some entry ∧ route.input = entry.input ∧
      route.output = entry.output ∧ verdict route.index = .ok route
  rejected : ∀ e, e ∈ errors ↔
    ∃ entry, entries[e.index]? = some entry ∧ e.input = entry.input ∧ e.output = entry.output ∧
      verdict e.index = .error e.fault
  inOrder : built.Pairwise fun r r' => r.index < r'.index
  increasing : errors.Pairwise fun e f => e.index < f.index
  count : built.length + errors.length = entries.length

section Routes

variable {compile : P → Params → StateM σ (Except ProcessError Processor)} {processors : Registry P}
variable {config : RouteConfig} {route : Route}

/-- A route that is built carries what its entry says. -/
theorem run_buildWith_eq_ok {index : Nat}
    (h : (Route.buildWith compile processors index config).run s = (.ok route, s')) :
    route.index = index ∧ route.input = config.input ∧ route.output = config.output := by
  simp only [Route.buildWith, StateT.run_bind] at h
  obtain ⟨⟨answer, s''⟩, hrun⟩ : ∃ result,
    (Route.buildProcessors compile processors 0 config.processors).run s = result := ⟨_, rfl⟩
  rw [hrun] at h
  cases answer with
  | ok steps =>
    obtain ⟨hroute, -⟩ := Prod.mk.inj h
    obtain rfl := Except.ok.inj hroute
    exact ⟨rfl, rfl, rfl⟩
  | error fault =>
    obtain ⟨hroute, -⟩ := Prod.mk.inj h
    nomatch hroute

namespace RoutePartition

variable {entries : List RouteConfig} {verdict : Nat → Except RouteFault Route} {state : Nat → σ}
variable {routes : List Route} {errors : List RouteLoadError}

theorem nil (compile : P → Params → StateM σ (Except ProcessError Processor))
    (processors : Registry P) (verdict : Nat → Except RouteFault Route) (state : Nat → σ) :
    RoutePartition compile processors [] verdict state [] [] where
  compiled := nofun
  retained := by simp
  rejected := by simp
  inOrder := .nil
  increasing := .nil
  count := rfl

/-- The compilations when one more entry has been compiled. -/
theorem compiled_concat (h : RoutePartition compile processors entries verdict state routes errors)
    {v : Except RouteFault Route}
    (hv : (Route.buildWith compile processors entries.length config).run (state entries.length) =
      (v, s')) :
    ∀ k entry, (entries ++ [config])[k]? = some entry →
      (Route.buildWith compile processors k entry).run
          (Function.update state (entries.length + 1) s' k) =
        (Function.update verdict entries.length v k,
          Function.update state (entries.length + 1) s' (k + 1)) :=
  forall_getElem?_concat (Q := fun k entry s v s' =>
    (Route.buildWith compile processors k entry).run s = (v, s')) h.compiled hv

/-- One more route is built. -/
theorem concat_ok (h : RoutePartition compile processors entries verdict state routes errors)
    (hv : (Route.buildWith compile processors entries.length config).run (state entries.length) =
      (.ok route, s')) :
    RoutePartition compile processors (entries ++ [config])
      (Function.update verdict entries.length (.ok route))
      (Function.update state (entries.length + 1) s') (routes ++ [route]) errors := by
  obtain ⟨hindex, hinput, houtput⟩ := run_buildWith_eq_ok hv
  refine ⟨h.compiled_concat hv, fun other => ?_, fun e => ?_, ?_, h.increasing, ?_⟩
  · rw [exists_getElem?_concat_iff fun (entry : RouteConfig) (v : Except RouteFault Route) =>
      other.input = entry.input ∧ other.output = entry.output ∧ v = .ok other,
      ← h.retained, List.mem_append, List.mem_singleton]
    refine or_congr_right ⟨?_, ?_⟩
    · rintro rfl
      exact ⟨hindex, hinput, houtput, rfl⟩
    · rintro ⟨-, -, -, heq⟩
      exact (Except.ok.inj heq).symm
  · rw [exists_getElem?_concat_iff fun (entry : RouteConfig) (v : Except RouteFault Route) =>
      e.input = entry.input ∧ e.output = entry.output ∧ v = .error e.fault, ← h.rejected]
    simp
  · refine pairwise_concat_of_lt h.inOrder fun earlier hearlier => ?_
    obtain ⟨entry, hentry, -⟩ := (h.retained earlier).1 hearlier
    rw [hindex]
    exact (List.getElem?_eq_some_iff.1 hentry).1
  · have hcount := h.count
    simp only [List.length_append, List.length_singleton]
    omega

/-- One more route is left out. -/
theorem concat_error (h : RoutePartition compile processors entries verdict state routes errors)
    {fault : RouteFault}
    (hv : (Route.buildWith compile processors entries.length config).run (state entries.length) =
      (.error fault, s')) :
    RoutePartition compile processors (entries ++ [config])
      (Function.update verdict entries.length (.error fault))
      (Function.update state (entries.length + 1) s') routes
      (errors ++ [⟨entries.length, config.input, config.output, fault⟩]) := by
  refine ⟨h.compiled_concat hv, fun other => ?_, fun e => ?_, h.inOrder, ?_, ?_⟩
  · rw [exists_getElem?_concat_iff fun (entry : RouteConfig) (v : Except RouteFault Route) =>
      other.input = entry.input ∧ other.output = entry.output ∧ v = .ok other, ← h.retained]
    simp
  · rw [exists_getElem?_concat_iff fun (entry : RouteConfig) (v : Except RouteFault Route) =>
      e.input = entry.input ∧ e.output = entry.output ∧ v = .error e.fault,
      List.mem_append, ← h.rejected, List.mem_singleton]
    obtain ⟨index, input, output, fault'⟩ := e
    simp [eq_comm]
  · refine pairwise_concat_of_lt h.increasing fun e he => ?_
    obtain ⟨entry, hentry, -⟩ := (h.rejected e).1 he
    exact (List.getElem?_eq_some_iff.1 hentry).1
  · have hcount := h.count
    simp only [List.length_append, List.length_singleton]
    omega

end RoutePartition

theorem run_buildRoutes_of_ok (index : Nat)
    (h : (Route.buildWith compile processors index config).run s = (.ok route, s'))
    (rest : List RouteConfig) :
    (buildRoutes compile processors index (config :: rest)).run s =
      let later := (buildRoutes compile processors (index + 1) rest).run s'
      ({ later.1 with built := route :: later.1.built }, later.2) := by
  simp only [buildRoutes, StateT.run_bind, h]
  rfl

theorem run_buildRoutes_of_error (index : Nat) {fault : RouteFault}
    (h : (Route.buildWith compile processors index config).run s = (.error fault, s'))
    (rest : List RouteConfig) :
    (buildRoutes compile processors index (config :: rest)).run s =
      let later := (buildRoutes compile processors (index + 1) rest).run s'
      ({ later.1 with errors := ⟨index, config.input, config.output, fault⟩ :: later.1.errors },
        later.2) := by
  simp only [buildRoutes, StateT.run_bind, h]
  rfl

/-- Building more routes keeps each in its place. -/
theorem buildRoutes_partition {verdict : Nat → Except RouteFault Route} {state : Nat → σ}
    {routes : List Route} {errors : List RouteLoadError} {done : List RouteConfig}
    (h : RoutePartition compile processors done verdict state routes errors)
    (rest : List RouteConfig) :
    ∃ verdict' state', state' 0 = state 0 ∧
      let out := (buildRoutes compile processors done.length rest).run (state done.length)
      state' (done ++ rest).length = out.2 ∧
      RoutePartition compile processors (done ++ rest) verdict' state' (routes ++ out.1.built)
        (errors ++ out.1.errors) := by
  induction rest generalizing done verdict state routes errors with
  | nil =>
    refine ⟨verdict, state, rfl, ?_, ?_⟩
    · rw [List.append_nil]
      rfl
    · rw [List.append_nil]
      change RoutePartition compile processors done verdict state (routes ++ []) (errors ++ [])
      rw [List.append_nil, List.append_nil]
      exact h
  | cons config rest ih =>
    have hlen : (done ++ [config]).length = done.length + 1 := by
      rw [List.length_append, List.length_singleton]
    rw [List.append_cons]
    obtain ⟨⟨answer, s'⟩, hrun⟩ : ∃ result,
      (Route.buildWith compile processors done.length config).run (state done.length) = result :=
      ⟨_, rfl⟩
    have hnow : Function.update state (done.length + 1) s' (done.length + 1) = s' :=
      Function.update_self _ _ _
    have hfirst : Function.update state (done.length + 1) s' 0 = state 0 :=
      Function.update_of_ne (Nat.succ_ne_zero _).symm _ _
    cases answer with
    | ok route =>
      obtain ⟨verdict', state', h0, hlater⟩ := ih (h.concat_ok hrun)
      rw [hlen, hnow] at hlater
      refine ⟨verdict', state', h0.trans hfirst, ?_⟩
      rw [run_buildRoutes_of_ok done.length hrun]
      dsimp only at hlater ⊢
      rw [List.append_cons routes]
      exact hlater
    | error fault =>
      obtain ⟨verdict', state', h0, hlater⟩ := ih (h.concat_error hrun)
      rw [hlen, hnow] at hlater
      refine ⟨verdict', state', h0.trans hfirst, ?_⟩
      rw [run_buildRoutes_of_error done.length hrun]
      dsimp only at hlater ⊢
      rw [List.append_cons errors]
      exact hlater

end Routes

/-! ## The whole configuration -/

namespace ModulePartition

variable {entries : List ModuleConfig} {verdict : Nat → Except ModuleFault M} {state : Nat → σ}
variable {errors : List ModuleLoadError} {e e' : ModuleConfig} {made made' : M} {j k : Nat}

/-- An entry after one of its id that is retained is a duplicate. -/
theorem duplicateId_of_lt
    (h : ModulePartition construct registry entries verdict state built errors)
    (he : entries[j]? = some e) (hmade : verdict j = .ok made) (hlt : j < k)
    (he' : entries[k]? = some e') (hid : e'.id = e.id) :
    verdict k = .error (.duplicateId e.id) := by
  have hretained : RetainedBefore entries verdict k e'.id := ⟨j, hlt, e, made, he, hid.symm, hmade⟩
  have hne : e.id ≠ "" := by
    have hj := h.judged j e he
    rw [hmade] at hj
    cases hj with
    | built hid => exact hid
  have hk := h.judged k e' he'
  generalize verdict k = v, state (k + 1) = s' at hk
  cases hk with
  | emptyId hempty => exact absurd (hid.symm.trans hempty) hne
  | duplicateId => rw [hid]
  | unknownType _ hnew | construction _ hnew | built _ hnew => exact absurd hretained hnew

/-- No two entries of one id are retained. -/
theorem eq_of_id_eq (h : ModulePartition construct registry entries verdict state built errors)
    (he : entries[j]? = some e) (hmade : verdict j = .ok made) (he' : entries[k]? = some e')
    (hmade' : verdict k = .ok made') (hid : e.id = e'.id) : j = k := by
  rcases lt_trichotomy j k with hlt | heq | hgt
  · have hdup := h.duplicateId_of_lt he hmade hlt he' hid.symm
    rw [hmade'] at hdup
    nomatch hdup
  · exact heq
  · have hdup := h.duplicateId_of_lt he' hmade' hgt he hid
    rw [hmade] at hdup
    nomatch hdup

/-- The entry of an id that is retained is the first of that id that passes: those before it have
faults of their own. -/
theorem fault_of_lt (h : ModulePartition construct registry entries verdict state built errors)
    (he : entries[k]? = some e) (hmade : verdict k = .ok made) (hlt : j < k)
    (he' : entries[j]? = some e') (hid : e'.id = e.id) :
    ∃ fault, verdict j = .error fault ∧ ∀ id, fault ≠ .duplicateId id := by
  have hj := h.judged j e' he'
  generalize hv : verdict j = v, state (j + 1) = s' at hj
  cases hj with
  | emptyId => exact ⟨_, rfl, nofun⟩
  | duplicateId _ hretained =>
    obtain ⟨i, hi, e'', made'', he'', hid', hmade''⟩ := hretained
    have heq := h.eq_of_id_eq he'' hmade'' he hmade (hid'.trans hid)
    omega
  | unknownType => exact ⟨_, rfl, nofun⟩
  | construction => exact ⟨_, rfl, nofun⟩
  | built => exact absurd (h.eq_of_id_eq he' hv he hmade hid) hlt.ne

end ModulePartition

end Effects

end Assembly

end Switchboard
