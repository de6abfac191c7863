import Mathlib.Data.Option.Basic
import Switchboard.Config.Document
import Switchboard.Config.Reader
import Switchboard.Proofs.Config.Written
import Switchboard.Proofs.Json.Agreement

/-!
# Configurations and values of one document

Where the document of a configuration can be read as a value, the configuration is that of the value:
parts that the value lacks are empty.
-/

namespace Switchboard

open Json (Agrees)

namespace Json

variable {α : Type} {look : String → Option Json} {t : Table Json} {name : String}

/-- A string and the value that it was read from. -/
def IsString (s : String) (v : Json) : Prop := v = .string s

/-- Parameters and the value that they were read from. -/
def IsParams (p : Params) (v : Json) : Prop := v = p.toJson

/-- A list and the value that it was read from. -/
def IsList (item? : Json → Option α) (xs : List α) (v : Json) : Prop :=
  ∃ items, v = .array items ∧ List.Forall₂ (fun x item => item? item = some x) xs items

theorem mapM_of_forall₂ {item? : Json → Option α} {xs : List α} {items : List Json}
    (h : List.Forall₂ (fun x item => item? item = some x) xs items) : items.mapM item? = some xs := by
  induction h with
  | nil => rfl
  | cons hx _ ih => simp [List.mapM_cons, hx, ih]

theorem isSome_of_rel {R : α → Json → Prop} {x : Option α} (h : Option.Rel R x (look name))
    (hset : x.isSome = true) : (look name).isSome := by
  cases x with
  | none => cases hset
  | some x =>
    generalize look name = found at h ⊢
    cases h
    rfl

theorem stringField?_of_rel {s : Option String} (h : Option.Rel IsString s (t.find? name))
    (hsome : (t.find? name).isSome) : stringField? t name = some (s.getD "") := by
  rw [stringField?]
  generalize t.find? name = found at h hsome ⊢
  cases h with
  | none => cases hsome
  | some hs =>
    rw [hs]
    rfl

theorem paramsField?_of_rel {p : Option Params} (h : Option.Rel IsParams p (t.find? "params")) :
    paramsField? t = some (p.getD .empty) := by
  rw [paramsField?]
  generalize t.find? "params" = found at h ⊢
  cases h with
  | none => rfl
  | some hp =>
    rw [hp]
    rfl

theorem listField?_of_rel {item? : Json → Option α} {xs : Option (List α)}
    (h : Option.Rel (IsList item?) xs (t.find? name)) :
    listField? t name item? = some (xs.getD []) := by
  rw [listField?]
  generalize t.find? name = found at h ⊢
  cases h with
  | none => rfl
  | some hxs =>
    obtain ⟨items, rfl, hall⟩ := hxs
    exact mapM_of_forall₂ hall

end Json

variable {bound depth : Nat}

theorem Params.agrees : Agrees bound depth (Params.reader bound depth) Json.IsParams :=
  Json.agrees_expectTable.map Params.mk fun _ _ h => h

/-- A module that is being read and the look-up of its keys. -/
def ModuleDraft.Follows (d : ModuleDraft) (look : String → Option Json) : Prop :=
  Option.Rel Json.IsString d.id (look "id") ∧ Option.Rel Json.IsString d.type (look "type") ∧
    Option.Rel Json.IsParams d.params (look "params")

theorem ModuleDraft.follows_fields (bound depth : Nat) :
    Json.Follows (ModuleDraft.fields bound) bound depth ModuleDraft.Follows where
  congr draft look look' hsame h := by
    obtain ⟨hid, htype, hparams⟩ : look' "id" = look "id" ∧ look' "type" = look "type" ∧
        look' "params" = look "params" := by
      simpa [ModuleDraft.fields] using hsame
    rw [ModuleDraft.Follows, hid, htype, hparams]
    exact h
  field := by
    refine List.forall_mem_cons.2 ⟨?id, List.forall_mem_cons.2 ⟨?type,
      List.forall_mem_singleton.2 ?params⟩⟩
    case id =>
      intro draft look ⟨hid, htype, hparams⟩
      refine Json.agrees_expectString.map (fun s => { draft with id := some s }) fun s v hs => ?_
      exact ⟨.some hs, htype, hparams⟩
    case type =>
      intro draft look ⟨hid, htype, hparams⟩
      refine Json.agrees_expectString.map (fun s => { draft with type := some s }) fun s v hs => ?_
      exact ⟨hid, .some hs, hparams⟩
    case params =>
      intro draft look ⟨hid, htype, hparams⟩
      refine Params.agrees.map (fun p => { draft with params := some p }) fun p v hp => ?_
      exact ⟨hid, htype, .some hp⟩
  isSet := by
    refine List.forall_mem_cons.2 ⟨?id, List.forall_mem_cons.2 ⟨?type,
      List.forall_mem_singleton.2 ?params⟩⟩
    case id => exact fun draft look h => Json.isSome_of_rel h.1
    case type => exact fun draft look h => Json.isSome_of_rel h.2.1
    case params => exact fun draft look h => Json.isSome_of_rel h.2.2

theorem ModuleConfig.agrees :
    Agrees bound depth (ModuleConfig.reader bound depth)
      (fun m v => ModuleConfig.ofValue? v = some m) := by
  have hrecord := Json.agrees_readRecord "ModuleConfig" {} depth (ModuleDraft.follows_fields bound)
    (by simp [ModuleDraft.fields]) ⟨.none, .none, .none⟩
  refine hrecord.map ModuleDraft.toModule ?_
  rintro draft v ⟨t, ht, ⟨hid, htype, hparams⟩, hrequired⟩
  have hid := Json.stringField?_of_rel hid (hrequired _ List.mem_cons_self rfl)
  have htype := Json.stringField?_of_rel htype (hrequired _ (.tail _ List.mem_cons_self) rfl)
  have hparams := Json.paramsField?_of_rel hparams
  change v.recordFields? ["id", "type", "params"] = some t at ht
  simp [ofValue?, ht, hid, htype, hparams, ModuleDraft.toModule]

/-- A step that is being read and the look-up of its keys. -/
def ProcessorDraft.Follows (d : ProcessorDraft) (look : String → Option Json) : Prop :=
  Option.Rel Json.IsString d.type (look "type") ∧ Option.Rel Json.IsParams d.params (look "params")

theorem ProcessorDraft.follows_fields (bound depth : Nat) :
    Json.Follows (ProcessorDraft.fields bound) bound depth ProcessorDraft.Follows where
  congr draft look look' hsame h := by
    obtain ⟨htype, hparams⟩ : look' "type" = look "type" ∧ look' "params" = look "params" := by
      simpa [ProcessorDraft.fields] using hsame
    rw [ProcessorDraft.Follows, htype, hparams]
    exact h
  field := by
    refine List.forall_mem_cons.2 ⟨?type, List.forall_mem_singleton.2 ?params⟩
    case type =>
      intro draft look ⟨htype, hparams⟩
      refine Json.agrees_expectString.map (fun s => { draft with type := some s }) fun s v hs => ?_
      exact ⟨.some hs, hparams⟩
    case params =>
      intro draft look ⟨htype, hparams⟩
      refine Params.agrees.map (fun p => { draft with params := some p }) fun p v hp => ?_
      exact ⟨htype, .some hp⟩
  isSet := by
    refine List.forall_mem_cons.2 ⟨?type, List.forall_mem_singleton.2 ?params⟩
    case type => exact fun draft look h => Json.isSome_of_rel h.1
    case params => exact fun draft look h => Json.isSome_of_rel h.2

theorem ProcessorConfig.agrees :
    Agrees bound depth (ProcessorConfig.reader bound depth)
      (fun p v => ProcessorConfig.ofValue? v = some p) := by
  have hrecord := Json.agrees_readRecord "ProcessorConfig" {} depth (ProcessorDraft.follows_fields bound)
    (by simp [ProcessorDraft.fields]) ⟨.none, .none⟩
  refine hrecord.map ProcessorDraft.toProcessor ?_
  rintro draft v ⟨t, ht, ⟨htype, hparams⟩, hrequired⟩
  have htype := Json.stringField?_of_rel htype (hrequired _ List.mem_cons_self rfl)
  have hparams := Json.paramsField?_of_rel hparams
  change v.recordFields? ["type", "params"] = some t at ht
  simp [ofValue?, ht, htype, hparams, ProcessorDraft.toProcessor]

/-- A route that is being read and the look-up of its keys. -/
def RouteDraft.Follows (d : RouteDraft) (look : String → Option Json) : Prop :=
  Option.Rel Json.IsString d.input (look "input") ∧
    Option.Rel (Json.IsList ProcessorConfig.ofValue?) d.processors (look "processors") ∧
    Option.Rel Json.IsString d.output (look "output")

theorem RouteDraft.follows_fields (bound depth : Nat) :
    Json.Follows (RouteDraft.fields bound) bound depth RouteDraft.Follows where
  congr draft look look' hsame h := by
    obtain ⟨hinput, hprocessors, houtput⟩ : look' "input" = look "input" ∧
        look' "processors" = look "processors" ∧ look' "output" = look "output" := by
      simpa [RouteDraft.fields] using hsame
    rw [RouteDraft.Follows, hinput, hprocessors, houtput]
    exact h
  field := by
    refine List.forall_mem_cons.2 ⟨?input, List.forall_mem_cons.2 ⟨?processors,
      List.forall_mem_singleton.2 ?output⟩⟩
    case input =>
      intro draft look ⟨hinput, hprocessors, houtput⟩
      refine Json.agrees_expectString.map (fun s => { draft with input := some s }) fun s v hs => ?_
      exact ⟨.some hs, hprocessors, houtput⟩
    case processors =>
      intro draft look ⟨hinput, hprocessors, houtput⟩
      refine (Json.agrees_expectList fun _ => ProcessorConfig.agrees).map
        (fun ps => { draft with processors := some ps }) fun ps v hps => ?_
      exact ⟨hinput, .some hps, houtput⟩
    case output =>
      intro draft look ⟨hinput, hprocessors, houtput⟩
      refine Json.agrees_expectString.map (fun s => { draft with output := some s }) fun s v hs => ?_
      exact ⟨hinput, hprocessors, .some hs⟩
  isSet := by
    refine List.forall_mem_cons.2 ⟨?input, List.forall_mem_cons.2 ⟨?processors,
      List.forall_mem_singleton.2 ?output⟩⟩
    case input => exact fun draft look h => Json.isSome_of_rel h.1
    case processors => exact fun draft look h => Json.isSome_of_rel h.2.1
    case output => exact fun draft look h => Json.isSome_of_rel h.2.2

theorem RouteConfig.agrees :
    Agrees bound depth (RouteConfig.reader bound depth)
      (fun r v => RouteConfig.ofValue? v = some r) := by
  have hrecord := Json.agrees_readRecord "RouteConfig" {} depth (RouteDraft.follows_fields bound)
    (by simp [RouteDraft.fields]) ⟨.none, .none, .none⟩
  refine hrecord.map RouteDraft.toRoute ?_
  rintro draft v ⟨t, ht, ⟨hinput, hprocessors, houtput⟩, hrequired⟩
  have hinput := Json.stringField?_of_rel hinput (hrequired _ List.mem_cons_self rfl)
  have hprocessors := Json.listField?_of_rel hprocessors
  have houtput := Json.stringField?_of_rel houtput
    (hrequired _ (.tail _ (.tail _ List.mem_cons_self)) rfl)
  change v.recordFields? ["input", "processors", "output"] = some t at ht
  simp [ofValue?, ht, hinput, hprocessors, houtput, RouteDraft.toRoute]

/-- A configuration that is being read and the look-up of its keys. -/
def ConfigDraft.Follows (d : ConfigDraft) (look : String → Option Json) : Prop :=
  Option.Rel (Json.IsList ModuleConfig.ofValue?) d.modules (look "modules") ∧
    Option.Rel (Json.IsList RouteConfig.ofValue?) d.routes (look "routes")

theorem ConfigDraft.follows_fields (bound depth : Nat) :
    Json.Follows (ConfigDraft.fields bound) bound depth ConfigDraft.Follows where
  congr draft look look' hsame h := by
    obtain ⟨hmodules, hroutes⟩ : look' "modules" = look "modules" ∧
        look' "routes" = look "routes" := by
      simpa [ConfigDraft.fields] using hsame
    rw [ConfigDraft.Follows, hmodules, hroutes]
    exact h
  field := by
    refine List.forall_mem_cons.2 ⟨?modules, List.forall_mem_singleton.2 ?routes⟩
    case modules =>
      intro draft look ⟨hmodules, hroutes⟩
      refine (Json.agrees_expectList fun _ => ModuleConfig.agrees).map
        (fun ms => { draft with modules := some ms }) fun ms v hms => ?_
      exact ⟨.some hms, hroutes⟩
    case routes =>
      intro draft look ⟨hmodules, hroutes⟩
      refine (Json.agrees_expectList fun _ => RouteConfig.agrees).map
        (fun rs => { draft with routes := some rs }) fun rs v hrs => ?_
      exact ⟨hmodules, .some hrs⟩
  isSet := by
    refine List.forall_mem_cons.2 ⟨?modules, List.forall_mem_singleton.2 ?routes⟩
    case modules => exact fun draft look h => Json.isSome_of_rel h.1
    case routes => exact fun draft look h => Json.isSome_of_rel h.2

theorem Config.agrees :
    Agrees bound depth (Config.reader bound depth) (fun c v => Config.ofValue? v = some c) := by
  have hrecord := Json.agrees_readRecord "Config" {} depth (ConfigDraft.follows_fields bound)
    (by simp [ConfigDraft.fields]) ⟨.none, .none⟩
  refine hrecord.map ConfigDraft.toConfig ?_
  rintro draft v ⟨t, ht, ⟨hmodules, hroutes⟩, -⟩
  have hmodules := Json.listField?_of_rel hmodules
  have hroutes := Json.listField?_of_rel hroutes
  change v.recordFields? ["modules", "routes"] = some t at ht
  simp [ofValue?, ht, hmodules, hroutes, ConfigDraft.toConfig]

/-- **A configuration that has been read is that of the value of its document.** -/
theorem Config.ofValue?_of_ofJsonText {document : String} {c : Config} {v : Json}
    (h : Config.ofJsonText document = .ok c) (hv : Json.readText document = .ok v) :
    Config.ofValue? v = some c := by
  rw [Config.ofJsonText] at h
  rw [Json.readText, Json.read] at hv
  obtain ⟨rest, hc, -⟩ := Json.exists_of_readDocument h
  obtain ⟨after, hv, -⟩ := Json.exists_of_readDocument hv
  exact (Config.agrees _ _ _ _ _ hc hv).1

end Switchboard
