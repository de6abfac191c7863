import Switchboard.Config.Reader
import Switchboard.Proofs.Json.Records

/-!
# Reading back configurations

A configuration is taken back from each of its documents: those in which every empty list of modules,
routes or steps and every empty table of parameters stands or is left out.
-/

namespace Switchboard

open Json (Fills Stop TakesBack WellFormed)

/-! ## The documents of a configuration -/

/-- A list in a record, which may be left out when it is empty. -/
inductive ListPart {α : Type} (name : String) (written : α → Json → Prop) :
    List α → List (String × Json) → Prop where
  | listed {xs : List α} {js : List Json} (h : List.Forall₂ written xs js) :
      ListPart name written xs [(name, .array js)]
  | absent : ListPart name written [] []

/-- Parameters in a record, which may be left out when there are none. -/
inductive ParamsPart : Params → List (String × Json) → Prop where
  | given (p : Params) : ParamsPart p [("params", p.toJson)]
  | absent : ParamsPart .empty []

/-- The documents of a module. -/
def ModuleConfig.Written (m : ModuleConfig) (j : Json) : Prop :=
  ∃ params, ParamsPart m.params params ∧
    j = .object ([("id", .string m.id), ("type", .string m.type)] ++ params)

/-- The documents of a step. -/
def ProcessorConfig.Written (p : ProcessorConfig) (j : Json) : Prop :=
  ∃ params, ParamsPart p.params params ∧ j = .object (("type", .string p.type) :: params)

/-- The documents of a route. -/
def RouteConfig.Written (r : RouteConfig) (j : Json) : Prop :=
  ∃ processors, ListPart "processors" ProcessorConfig.Written r.processors processors ∧
    j = .object (("input", .string r.input) :: processors ++ [("output", .string r.output)])

/-- The documents of a configuration. -/
def Config.Written (c : Config) (j : Json) : Prop :=
  ∃ modules routes, ListPart "modules" ModuleConfig.Written c.modules modules ∧
    ListPart "routes" RouteConfig.Written c.routes routes ∧ j = .object (modules ++ routes)

theorem ListPart.map {α : Type} {name : String} {written : α → Json → Prop} {f : α → Json}
    (h : ∀ x, written x (f x)) (xs : List α) :
    ListPart name written xs [(name, .array (xs.map f))] :=
  .listed (List.forall₂_map_right_iff.2 (List.forall₂_same.2 fun x _ => h x))

theorem ModuleConfig.written_toDocument (m : ModuleConfig) : m.Written m.toDocument :=
  ⟨_, .given _, rfl⟩

theorem ProcessorConfig.written_toDocument (p : ProcessorConfig) : p.Written p.toDocument :=
  ⟨_, .given _, rfl⟩

theorem RouteConfig.written_toDocument (r : RouteConfig) : r.Written r.toDocument :=
  ⟨_, .map ProcessorConfig.written_toDocument _, rfl⟩

theorem Config.written_toDocument (c : Config) : c.Written c.toDocument :=
  ⟨_, _, .map ModuleConfig.written_toDocument _, .map RouteConfig.written_toDocument _, rfl⟩

/-! ## Reading them -/

/-- The module of what has been read of one. -/
def ModuleDraft.toModule (d : ModuleDraft) : ModuleConfig :=
  ⟨d.id.getD "", d.type.getD "", d.params.getD .empty⟩

/-- The step of what has been read of one. -/
def ProcessorDraft.toProcessor (d : ProcessorDraft) : ProcessorConfig :=
  ⟨d.type.getD "", d.params.getD .empty⟩

/-- The route of what has been read of one. -/
def RouteDraft.toRoute (d : RouteDraft) : RouteConfig :=
  ⟨d.input.getD "", d.processors.getD [], d.output.getD ""⟩

/-- The configuration of what has been read of one. -/
def ConfigDraft.toConfig (d : ConfigDraft) : Config := ⟨d.modules.getD [], d.routes.getD []⟩

variable {bound depth : Nat} {j : Json}

theorem Params.takesBack (bound : Nat) {p : Params} (h : WellFormed JsonNumber.Exact p.toJson)
    (hdepth : p.toJson.depth ≤ depth) : TakesBack bound (Params.reader bound depth) p.toJson p := by
  rw [Params.toJson, Json.depth] at hdepth
  obtain ⟨depth, rfl⟩ : ∃ d, depth = d + 1 := ⟨depth - 1, by omega⟩
  have hdepths := Json.depthFields_le_iff.1 (Nat.le_of_succ_le_succ hdepth)
  cases h with
  | object hsorted hfields =>
    have htable := Json.takesBack_expectTable bound hsorted fun field hfield =>
      Json.takesBack_readValue (hfields field hfield) depth (hdepths field hfield)
    exact htable.map Params.mk

theorem ModuleConfig.takesBack (bound : Nat) {m : ModuleConfig} (hj : m.Written j)
    (h : WellFormed JsonNumber.Exact m.params.toJson) (hdepth : j.depth ≤ depth) :
    TakesBack bound (ModuleConfig.reader bound depth) j m := by
  obtain ⟨params, hparams, rfl⟩ := hj
  rw [Json.depth] at hdepth
  obtain ⟨depth, rfl⟩ : ∃ d, depth = d + 1 := ⟨depth - 1, by omega⟩
  have hdepths := Json.depthFields_le_iff.1 (Nat.le_of_succ_le_succ hdepth)
  obtain ⟨id, type, p⟩ := m
  have hid := Json.takesBack_expectString bound id
  have htype := Json.takesBack_expectString bound type
  have hfills {draft : ModuleDraft}
      (hmore : Fills (ModuleDraft.fields bound) bound depth ⟨id, type, none⟩ params draft) :
      Fills (ModuleDraft.fields bound) bound depth {}
        ([("id", .string id), ("type", .string type)] ++ params) draft := by
    refine .field rfl rfl (hid.map fun s => ModuleDraft.mk s none none) ?_
    exact .field rfl rfl (htype.map fun s => ModuleDraft.mk id s none) hmore
  cases hparams with
  | given =>
    have hp := Params.takesBack bound h (hdepths ("params", p.toJson) (by simp))
    have hmore : Fills (ModuleDraft.fields bound) bound depth ⟨id, type, none⟩
        [("params", p.toJson)] ⟨id, type, p⟩ :=
      .field rfl rfl (hp.map fun p => ModuleDraft.mk id type p) (.done rfl)
    exact (Json.takesBack_readRecord (hfills hmore)).map ModuleDraft.toModule
  | absent => exact (Json.takesBack_readRecord (hfills (.done rfl))).map ModuleDraft.toModule

theorem ProcessorConfig.takesBack (bound : Nat) {p : ProcessorConfig} (hj : p.Written j)
    (h : WellFormed JsonNumber.Exact p.params.toJson) (hdepth : j.depth ≤ depth) :
    TakesBack bound (ProcessorConfig.reader bound depth) j p := by
  obtain ⟨params, hparams, rfl⟩ := hj
  rw [Json.depth] at hdepth
  obtain ⟨depth, rfl⟩ : ∃ d, depth = d + 1 := ⟨depth - 1, by omega⟩
  have hdepths := Json.depthFields_le_iff.1 (Nat.le_of_succ_le_succ hdepth)
  obtain ⟨type, p⟩ := p
  have htype := Json.takesBack_expectString bound type
  have hfills {draft : ProcessorDraft}
      (hmore : Fills (ProcessorDraft.fields bound) bound depth ⟨type, none⟩ params draft) :
      Fills (ProcessorDraft.fields bound) bound depth {} (("type", .string type) :: params) draft :=
    .field rfl rfl (htype.map fun s => ProcessorDraft.mk s none) hmore
  cases hparams with
  | given =>
    have hp := Params.takesBack bound h (hdepths ("params", p.toJson) (by simp))
    have hmore : Fills (ProcessorDraft.fields bound) bound depth ⟨type, none⟩
        [("params", p.toJson)] ⟨type, p⟩ :=
      .field rfl rfl (hp.map fun p => ProcessorDraft.mk type p) (.done rfl)
    exact (Json.takesBack_readRecord (hfills hmore)).map ProcessorDraft.toProcessor
  | absent => exact (Json.takesBack_readRecord (hfills (.done rfl))).map ProcessorDraft.toProcessor

/-- A list is taken back when its items are. -/
theorem Json.takesBack_written (bound : Nat) {α : Type} {written : α → Json → Prop} {xs : List α}
    {js : List Json} {item : (depth : Nat) → Bytes → Except Stop (α × Bytes)}
    (h : List.Forall₂ written xs js) (hdepth : (Json.array js).depth ≤ depth)
    (hitem : ∀ x ∈ xs, ∀ j depth, written x j → j.depth ≤ depth → TakesBack bound (item depth) j x) :
    TakesBack bound (expectList item bound depth) (.array js) xs := by
  rw [Json.depth] at hdepth
  obtain ⟨depth, rfl⟩ : ∃ d, depth = d + 1 := ⟨depth - 1, by omega⟩
  have hdepths := depthItems_le_iff.1 (Nat.le_of_succ_le_succ hdepth)
  refine takesBack_expectList ?_
  clear hdepth
  induction h with
  | nil => exact .nil
  | @cons x j xs js hj _ ih =>
    rw [List.forall_mem_cons] at hitem hdepths
    exact .cons (hitem.1 j depth hj hdepths.1) (ih hitem.2 hdepths.2)

theorem RouteConfig.takesBack (bound : Nat) {r : RouteConfig} (hj : r.Written j)
    (h : ∀ p ∈ r.processors, WellFormed JsonNumber.Exact p.params.toJson)
    (hdepth : j.depth ≤ depth) : TakesBack bound (RouteConfig.reader bound depth) j r := by
  obtain ⟨steps, hsteps, rfl⟩ := hj
  rw [Json.depth] at hdepth
  obtain ⟨depth, rfl⟩ : ∃ d, depth = d + 1 := ⟨depth - 1, by omega⟩
  have hdepths := Json.depthFields_le_iff.1 (Nat.le_of_succ_le_succ hdepth)
  obtain ⟨input, processors, output⟩ := r
  have hinput := Json.takesBack_expectString bound input
  have houtput := Json.takesBack_expectString bound output
  have hfills {draft : RouteDraft} (hmore : Fills (RouteDraft.fields bound) bound depth
        ⟨input, none, none⟩ (steps ++ [("output", .string output)]) draft) :
      Fills (RouteDraft.fields bound) bound depth {}
        (("input", .string input) :: steps ++ [("output", .string output)]) draft :=
    .field rfl rfl (hinput.map fun s => RouteDraft.mk s none none) hmore
  cases hsteps with
  | @listed _ js hlist =>
    have hread := Json.takesBack_written bound hlist
      (hdepths ("processors", .array js) (by simp)) fun p hp j depth hwritten hdepth =>
        ProcessorConfig.takesBack bound hwritten (h p hp) hdepth
    have hmore : Fills (RouteDraft.fields bound) bound depth ⟨input, none, none⟩
        [("processors", .array js), ("output", .string output)] ⟨input, processors, output⟩ := by
      refine .field rfl rfl (hread.map fun ps => RouteDraft.mk input ps none) ?_
      exact .field rfl rfl (houtput.map fun s => RouteDraft.mk input processors s) (.done rfl)
    exact (Json.takesBack_readRecord (hfills hmore)).map RouteDraft.toRoute
  | absent =>
    have hmore : Fills (RouteDraft.fields bound) bound depth ⟨input, none, none⟩
        [("output", .string output)] ⟨input, none, output⟩ :=
      .field rfl rfl (houtput.map fun s => RouteDraft.mk input none s) (.done rfl)
    exact (Json.takesBack_readRecord (hfills hmore)).map RouteDraft.toRoute

/-- The parameters of all modules and steps. -/
def Config.params (c : Config) : List Params :=
  c.modules.map ModuleConfig.params ++
    c.routes.flatMap fun r => r.processors.map ProcessorConfig.params

theorem Config.forall_mem_params {P : Params → Prop} {c : Config} :
    (∀ p ∈ c.params, P p) ↔
      (∀ m ∈ c.modules, P m.params) ∧ ∀ r ∈ c.routes, ∀ p ∈ r.processors, P p.params := by
  simp only [params, List.forall_mem_append, List.forall_mem_map, List.forall_mem_flatMap]

theorem Config.takesBack {c : Config} (hj : c.Written j)
    (h : ∀ p ∈ c.params, WellFormed JsonNumber.Exact p.toJson) (hdepth : j.depth ≤ depth) :
    TakesBack bound (Config.reader bound depth) j c := by
  obtain ⟨ms, rs, hms, hrs, rfl⟩ := hj
  rw [Json.depth] at hdepth
  obtain ⟨depth, rfl⟩ : ∃ d, depth = d + 1 := ⟨depth - 1, by omega⟩
  have hdepths := Json.depthFields_le_iff.1 (Nat.le_of_succ_le_succ hdepth)
  obtain ⟨modules, routes⟩ := c
  obtain ⟨hmodules, hroutes⟩ := Config.forall_mem_params.1 h
  -- the modules come first, whether the routes stand or not
  have hfirst : ∃ draft : ConfigDraft, draft.modules.getD [] = modules ∧ draft.routes = none ∧
      ∀ final, Fills (ConfigDraft.fields bound) bound depth draft rs final →
        Fills (ConfigDraft.fields bound) bound depth {} (ms ++ rs) final := by
    cases hms with
    | @listed _ js hlist =>
      have hread := Json.takesBack_written bound hlist
        (hdepths ("modules", .array js) (by simp)) fun m hm j depth hwritten hdepth =>
          ModuleConfig.takesBack bound hwritten (hmodules m hm) hdepth
      refine ⟨⟨modules, none⟩, rfl, rfl, fun final hmore => ?_⟩
      exact .field rfl rfl (hread.map fun ms => ConfigDraft.mk ms none) hmore
    | absent => exact ⟨{}, rfl, rfl, fun final hmore => hmore⟩
  obtain ⟨⟨given, _⟩, hgiven, rfl, hfills⟩ := hfirst
  cases hrs with
  | @listed _ js hlist =>
    have hread := Json.takesBack_written bound hlist
      (hdepths ("routes", .array js) (by simp)) fun r hr j depth hwritten hdepth =>
        RouteConfig.takesBack bound hwritten (hroutes r hr) hdepth
    have hmore : Fills (ConfigDraft.fields bound) bound depth ⟨given, none⟩
        [("routes", .array js)] ⟨given, routes⟩ :=
      .field rfl rfl (hread.map fun rs => ConfigDraft.mk given rs) (.done rfl)
    subst hgiven
    exact (Json.takesBack_readRecord (hfills _ hmore)).map ConfigDraft.toConfig
  | absent =>
    subst hgiven
    exact (Json.takesBack_readRecord (hfills _ (.done rfl))).map ConfigDraft.toConfig

/-- **A configuration is read back from each of its documents.** -/
theorem Config.ofJsonText_text {c : Config} (hj : c.Written j)
    (h : ∀ p ∈ c.params, WellFormed JsonNumber.Exact p.toJson) (hdepth : j.depth ≤ Json.maxDepth) :
    Config.ofJsonText j.text = .ok c := by
  rw [Config.ofJsonText, Json.text, Utf8.encode, String.toList_ofList]
  exact Json.readDocument_write fun _ => Config.takesBack hj h hdepth

end Switchboard
