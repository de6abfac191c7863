import Switchboard.Config.Reader
import Switchboard.Proofs.Config.Written
import Switchboard.Proofs.Json.Accepted
import Switchboard.Proofs.Json.RecordParts

/-!
# What configurations have been read

The parameters of a configuration that has been read are well formed, and its document is no deeper
than the text could be. An absent part counts as empty, which is never the deepest.
-/

namespace Switchboard

open Json (Stop WellFormed)

variable {bytes rest : Bytes} {bound depth : Nat}

/-- Parameters that can be read and written inside `depth` lists and objects. -/
def Params.Fits (depth : Nat) (p : Params) : Prop :=
  WellFormed JsonNumber.Fits p.toJson ∧ p.toJson.depth ≤ depth

theorem Params.fits_empty (depth : Nat) : Params.empty.Fits (depth + 1) :=
  ⟨.object Table.sorted_nil nofun, Nat.le_add_left 1 depth⟩

theorem Params.fits_getD {p : Option Params} (h : ∀ q ∈ p, q.Fits (depth + 1)) :
    (p.getD .empty).Fits (depth + 1) := by
  cases p with
  | none => exact Params.fits_empty depth
  | some q => exact h q rfl

theorem Params.fits_of_reader {p : Params} (h : Params.reader bound depth bytes = .ok (p, rest)) :
    p.Fits depth := by
  obtain ⟨fields, htable, rfl⟩ := Json.exists_of_map_eq_ok h
  obtain ⟨inner, tail, pairs, rfl, -, rfl, hpairs⟩ := Json.expectTable_eq_ok htable
  obtain ⟨hall, -⟩ := Json.lasts_fits.fields
    (P := fun v => WellFormed JsonNumber.Fits v ∧ v.depth ≤ inner)
    (fun bytes x rest _ hx => Json.lasts_fits.value hx trivial) hpairs trivial
  constructor
  · exact .object (Table.sorted_ofList _) fun field hfield =>
      (hall field (Table.mem_of_mem_ofList hfield)).1
  · exact Nat.succ_le_succ (Json.depthFields_le_iff.2 fun field hfield =>
      (hall field (Table.mem_of_mem_ofList hfield)).2)

/-- What holds of every item that is read holds of the items of a list. -/
theorem Json.of_expectList {α : Type} {P : α → Prop} {xs : List α}
    {item : (depth : Nat) → Bytes → Except Stop (α × Bytes)}
    (h : expectList item bound (depth + 1) bytes = .ok (xs, rest))
    (hitem : ∀ bytes x rest, item depth bytes = .ok (x, rest) → P x) : ∀ x ∈ xs, P x := by
  obtain ⟨inner, tail, hdepth, -, hitems⟩ := expectList_eq_ok h
  obtain rfl := Nat.succ.inj hdepth
  exact (lasts_fits.items (fun bytes x rest _ hx => ⟨hitem bytes x rest hx, trivial⟩) hitems
    trivial).1

/-- A module that can be read and written inside `depth` lists and objects. -/
def ModuleConfig.Fits (depth : Nat) (m : ModuleConfig) : Prop :=
  WellFormed JsonNumber.Fits m.params.toJson ∧ m.toDocument.depth ≤ depth

theorem ModuleConfig.fits_of_reader {m : ModuleConfig}
    (h : ModuleConfig.reader bound (depth + 2) bytes = .ok (m, rest)) : m.Fits (depth + 2) := by
  obtain ⟨draft, hrecord, rfl⟩ := Json.exists_of_map_eq_ok (f := ModuleDraft.toModule) h
  have hparams : ∀ p ∈ draft.params, p.Fits (depth + 1) := by
    refine Json.of_readRecord (P := fun d => ∀ p ∈ d.params, p.Fits (depth + 1)) hrecord
      (List.forall_mem_cons.2 ⟨?id, List.forall_mem_cons.2 ⟨?type, List.forall_mem_singleton.2 ?params⟩⟩)
      nofun
    case id =>
      intro draft bytes next rest hread hdraft
      obtain ⟨s, -, rfl⟩ :=
        Json.exists_of_map_eq_ok (f := fun s => { draft with id := some s }) hread
      exact hdraft
    case type =>
      intro draft bytes next rest hread hdraft
      obtain ⟨s, -, rfl⟩ :=
        Json.exists_of_map_eq_ok (f := fun s => { draft with type := some s }) hread
      exact hdraft
    case params =>
      intro draft bytes next rest hread hdraft q hq
      obtain ⟨p, hp, rfl⟩ :=
        Json.exists_of_map_eq_ok (f := fun p => { draft with params := some p }) hread
      obtain rfl := Option.some.inj hq
      exact Params.fits_of_reader hp
  obtain ⟨hform, hdepth⟩ := Params.fits_getD hparams
  refine ⟨hform, ?_⟩
  simp only [ModuleDraft.toModule, toDocument, Json.depth, Json.depthFields]
  omega

/-- A step that can be read and written inside `depth` lists and objects. -/
def ProcessorConfig.Fits (depth : Nat) (p : ProcessorConfig) : Prop :=
  WellFormed JsonNumber.Fits p.params.toJson ∧ p.toDocument.depth ≤ depth

theorem ProcessorConfig.fits_of_reader {p : ProcessorConfig}
    (h : ProcessorConfig.reader bound (depth + 2) bytes = .ok (p, rest)) : p.Fits (depth + 2) := by
  obtain ⟨draft, hrecord, rfl⟩ := Json.exists_of_map_eq_ok (f := ProcessorDraft.toProcessor) h
  have hparams : ∀ p ∈ draft.params, p.Fits (depth + 1) := by
    refine Json.of_readRecord (P := fun d => ∀ p ∈ d.params, p.Fits (depth + 1)) hrecord
      (List.forall_mem_cons.2 ⟨?type, List.forall_mem_singleton.2 ?params⟩) nofun
    case type =>
      intro draft bytes next rest hread hdraft
      obtain ⟨s, -, rfl⟩ :=
        Json.exists_of_map_eq_ok (f := fun s => { draft with type := some s }) hread
      exact hdraft
    case params =>
      intro draft bytes next rest hread hdraft q hq
      obtain ⟨p, hp, rfl⟩ :=
        Json.exists_of_map_eq_ok (f := fun p => { draft with params := some p }) hread
      obtain rfl := Option.some.inj hq
      exact Params.fits_of_reader hp
  obtain ⟨hform, hdepth⟩ := Params.fits_getD hparams
  refine ⟨hform, ?_⟩
  simp only [ProcessorDraft.toProcessor, toDocument, Json.depth, Json.depthFields]
  omega

/-- A route that can be read and written inside `depth` lists and objects. -/
def RouteConfig.Fits (depth : Nat) (r : RouteConfig) : Prop :=
  (∀ p ∈ r.processors, WellFormed JsonNumber.Fits p.params.toJson) ∧ r.toDocument.depth ≤ depth

theorem RouteConfig.fits_of_reader {r : RouteConfig}
    (h : RouteConfig.reader bound (depth + 4) bytes = .ok (r, rest)) : r.Fits (depth + 4) := by
  obtain ⟨draft, hrecord, rfl⟩ := Json.exists_of_map_eq_ok (f := RouteDraft.toRoute) h
  have hlist : ∀ ps ∈ draft.processors, ∀ p ∈ ps, p.Fits (depth + 2) := by
    refine Json.of_readRecord (P := fun d => ∀ ps ∈ d.processors, ∀ p ∈ ps, p.Fits (depth + 2))
      hrecord (List.forall_mem_cons.2 ⟨?input, List.forall_mem_cons.2
        ⟨?processors, List.forall_mem_singleton.2 ?output⟩⟩) nofun
    case input =>
      intro draft bytes next rest hread hdraft
      obtain ⟨s, -, rfl⟩ :=
        Json.exists_of_map_eq_ok (f := fun s => { draft with input := some s }) hread
      exact hdraft
    case processors =>
      intro draft bytes next rest hread hdraft qs hqs
      obtain ⟨ps, hps, rfl⟩ :=
        Json.exists_of_map_eq_ok (f := fun ps => { draft with processors := some ps }) hread
      obtain rfl := Option.some.inj hqs
      exact Json.of_expectList hps fun _ _ _ hp => ProcessorConfig.fits_of_reader hp
    case output =>
      intro draft bytes next rest hread hdraft
      obtain ⟨s, -, rfl⟩ :=
        Json.exists_of_map_eq_ok (f := fun s => { draft with output := some s }) hread
      exact hdraft
  have hprocessors : ∀ p ∈ draft.processors.getD [], p.Fits (depth + 2) := by
    cases hd : draft.processors with
    | none => nofun
    | some ps => exact hlist ps hd
  refine ⟨fun p hp => (hprocessors p hp).1, ?_⟩
  have hdepth : Json.depthItems ((draft.processors.getD []).map ProcessorConfig.toDocument) ≤
      depth + 2 :=
    Json.depthItems_le_iff.2 (List.forall_mem_map.2 fun p hp => (hprocessors p hp).2)
  simp only [RouteDraft.toRoute, toDocument, Json.depth, Json.depthFields]
  omega

/-- A configuration that can be read and written inside `depth` lists and objects. -/
def Config.Fits (depth : Nat) (c : Config) : Prop :=
  (∀ p ∈ c.params, WellFormed JsonNumber.Fits p.toJson) ∧ c.toDocument.depth ≤ depth

theorem Config.fits_of_reader (depth : Nat) {c : Config}
    (h : Config.reader bound (depth + 6) bytes = .ok (c, rest)) : c.Fits (depth + 6) := by
  obtain ⟨draft, hrecord, rfl⟩ := Json.exists_of_map_eq_ok (f := ConfigDraft.toConfig) h
  obtain ⟨hms, hrs⟩ : (∀ ms ∈ draft.modules, ∀ m ∈ ms, m.Fits (depth + 4)) ∧
      ∀ rs ∈ draft.routes, ∀ r ∈ rs, r.Fits (depth + 4) := by
    refine Json.of_readRecord (P := fun d => (∀ ms ∈ d.modules, ∀ m ∈ ms, m.Fits (depth + 4)) ∧
      ∀ rs ∈ d.routes, ∀ r ∈ rs, r.Fits (depth + 4)) hrecord
      (List.forall_mem_cons.2 ⟨?modules, List.forall_mem_singleton.2 ?routes⟩) ⟨nofun, nofun⟩
    case modules =>
      intro draft bytes next rest hread hdraft
      obtain ⟨ms, hms, rfl⟩ :=
        Json.exists_of_map_eq_ok (f := fun ms => { draft with modules := some ms }) hread
      refine ⟨fun ns hns => ?_, hdraft.2⟩
      obtain rfl := Option.some.inj hns
      exact Json.of_expectList hms fun _ _ _ hm => ModuleConfig.fits_of_reader hm
    case routes =>
      intro draft bytes next rest hread hdraft
      obtain ⟨rs, hrs, rfl⟩ :=
        Json.exists_of_map_eq_ok (f := fun rs => { draft with routes := some rs }) hread
      refine ⟨hdraft.1, fun ss hss => ?_⟩
      obtain rfl := Option.some.inj hss
      exact Json.of_expectList hrs fun _ _ _ hr => RouteConfig.fits_of_reader hr
  have hmodules : ∀ m ∈ draft.modules.getD [], m.Fits (depth + 4) := by
    cases hd : draft.modules with
    | none => nofun
    | some ms => exact hms ms hd
  have hroutes : ∀ r ∈ draft.routes.getD [], r.Fits (depth + 4) := by
    cases hd : draft.routes with
    | none => nofun
    | some rs => exact hrs rs hd
  refine ⟨Config.forall_mem_params.2 ⟨fun m hm => (hmodules m hm).1, fun r hr p hp =>
    (hroutes r hr).1 p hp⟩, ?_⟩
  have hmodules : Json.depthItems ((draft.modules.getD []).map ModuleConfig.toDocument) ≤
      depth + 4 :=
    Json.depthItems_le_iff.2 (List.forall_mem_map.2 fun m hm => (hmodules m hm).2)
  have hroutes : Json.depthItems ((draft.routes.getD []).map RouteConfig.toDocument) ≤
      depth + 4 :=
    Json.depthItems_le_iff.2 (List.forall_mem_map.2 fun r hr => (hroutes r hr).2)
  simp only [ConfigDraft.toConfig, toDocument, Json.depth, Json.depthFields]
  omega

end Switchboard
