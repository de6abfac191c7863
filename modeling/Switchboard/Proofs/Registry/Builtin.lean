import Switchboard.Proofs.Registry
import Switchboard.Proofs.Registry.Runs

/-!
# Registering what comes with the library

The types that come with the library are registered one after the other, and none of them replaces a
type that is known: the first that is known already ends this, and those before it stay.
-/

namespace Switchboard

/-- The registration could be taken by a registry that does not know its type. -/
def Registration.Usable {C : Type} (given : Registration C) : Prop :=
  given.type ≠ "" ∧ given.constructor.isSome = true

instance {C : Type} (given : Registration C) : Decidable given.Usable :=
  inferInstanceAs (Decidable (_ ∧ _))

namespace Registry

variable {C : Type} {r r' r'' : Registry C} {given clash : Registration C}
  {added more before : List (Registration C)} {type : String} {constructor : C}

/-- A registry holds what another holds and what the registrations bring, and nothing else. -/
structure Adds (r : Registry C) (added : List (Registration C)) (r' : Registry C) : Prop where
  kind : r'.kind = r.kind
  lookup : ∀ type constructor, r'.lookup type = some constructor ↔
    r.lookup type = some constructor ∨
      ∃ given ∈ added, given.type = type ∧ given.constructor = some constructor
  mem_types : ∀ type, type ∈ r'.types ↔ type ∈ r.types ∨ type ∈ added.map Registration.type
  size : r'.size = r.size + added.length
  sorted : r.entries.Sorted → r'.entries.Sorted

/-! ## One registration -/

theorem Adds.refl (r : Registry C) : r.Adds [] r where
  kind := rfl
  lookup := by simp
  mem_types := by simp
  size := rfl
  sorted := id

theorem Adds.trans (h : r.Adds added r') (h' : r'.Adds more r'') :
    r.Adds (added ++ more) r'' where
  kind := h'.kind.trans h.kind
  lookup type constructor := by
    rw [h'.lookup, h.lookup, or_assoc]
    simp only [List.mem_append, or_and_right, exists_or]
  mem_types type := by
    rw [h'.mem_types, h.mem_types, or_assoc, List.map_append, List.mem_append]
  size := by rw [h'.size, h.size, List.length_append, Nat.add_assoc]
  sorted hr := h'.sorted (h.sorted hr)

theorem Adds.lookup_eq_some (h : r.Adds added r') (hlookup : r.lookup type = some constructor) :
    r'.lookup type = some constructor :=
  (h.lookup type constructor).2 (.inl hlookup)

theorem Adds.contains_iff (h : r.Adds added r') : r'.contains type = true ↔
    r.contains type = true ∨ type ∈ added.map Registration.type := by
  rw [← mem_types_iff, ← mem_types_iff]
  exact h.mem_types type

/-- A usable registration of a type that is not known is taken, and nothing else changes. -/
theorem exists_register (h : given.Usable) (hnew : r.contains given.type = false) :
    ∃ r', r.register given = .ok r' ∧ r.Adds [given] r' := by
  obtain ⟨htype, hbrought⟩ := h
  obtain ⟨constructor, hconstructor⟩ := Option.isSome_iff_exists.1 hbrought
  have hnone : r.lookup given.type = none := Option.isNone_iff_eq_none.1 (by
    rw [← Option.not_isSome]
    simpa [contains] using hnew)
  have hkey : given.type ∉ r.entries.keys := Table.find?_eq_none_iff.1 hnone
  refine ⟨{ r with entries := r.entries.insert given.type constructor }, ?_, ?_⟩
  · simp only [register, if_neg htype, hconstructor, hnew, Bool.false_eq_true, if_false]
  · refine ⟨rfl, ?_, ?_, ?_, Table.sorted_insert⟩
    · intro type other
      simp only [lookup, Table.find?_insert, List.mem_singleton, exists_eq_left, hconstructor,
        Option.some.injEq]
      by_cases heq : given.type = type
      · subst heq
        rw [lookup] at hnone
        simp [hnone]
      · simp [heq]
    · intro type
      rw [types, types, Table.mem_keys_insert, List.map_singleton, List.mem_singleton, or_comm]
    · exact Table.length_insert hkey

/-! ## Registrations in order -/

/-- Registrations that can all be taken are, whatever comes after them. -/
theorem exists_registerAll_append (husable : ∀ given ∈ before, given.Usable)
    (honce : (before.map Registration.type).Nodup)
    (hnew : ∀ given ∈ before, r.contains given.type = false) :
    ∃ r', r.Adds before r' ∧ ∀ rest, r.registerAll (before ++ rest) = r'.registerAll rest := by
  induction before generalizing r with
  | nil => exact ⟨r, .refl r, fun _ => rfl⟩
  | cons given before ih =>
    obtain ⟨hgiven, husable⟩ := List.forall_mem_cons.1 husable
    obtain ⟨hfresh, hnew⟩ := List.forall_mem_cons.1 hnew
    obtain ⟨hother, honce⟩ := List.nodup_cons.1 honce
    obtain ⟨next, hnext, hadds⟩ := exists_register hgiven hfresh
    have hnew' : ∀ other ∈ before, next.contains other.type = false := by
      intro other hmem
      rw [← Bool.not_eq_true, hadds.contains_iff]
      rintro (hknown | hknown)
      · exact Bool.false_ne_true ((hnew other hmem).symm.trans hknown)
      · rw [List.map_singleton, List.mem_singleton] at hknown
        exact hother (hknown ▸ List.mem_map_of_mem hmem)
    obtain ⟨r', hadds', hrest⟩ := ih husable honce hnew'
    refine ⟨r', hadds.trans hadds', ?_⟩
    intro rest
    rw [List.cons_append, registerAll, hnext]
    exact hrest rest

theorem exists_registerAll (husable : ∀ given ∈ added, given.Usable)
    (honce : (added.map Registration.type).Nodup)
    (hnew : ∀ given ∈ added, r.contains given.type = false) :
    ∃ r', r.registerAll added = (none, r') ∧ r.Adds added r' := by
  obtain ⟨r', hadds, hrest⟩ := exists_registerAll_append husable honce hnew
  have h := hrest []
  rw [List.append_nil] at h
  exact ⟨r', h, hadds⟩

/-- The first registration of a type that is known is refused, and those before it are taken. -/
theorem exists_registerAll_clash
    (husable : ∀ given ∈ before ++ clash :: more, given.Usable)
    (honce : ((before ++ clash :: more).map Registration.type).Nodup)
    (hnew : ∀ given ∈ before, r.contains given.type = false)
    (hclash : r.contains clash.type = true) :
    ∃ r', r.registerAll (before ++ clash :: more) = (some (.duplicate clash.type), r') ∧
      r.Adds before r' := by
  obtain ⟨hbefore, hrest⟩ := List.forall_mem_append.1 husable
  obtain ⟨htype, hbrought⟩ := hrest clash List.mem_cons_self
  obtain ⟨constructor, hconstructor⟩ := Option.isSome_iff_exists.1 hbrought
  rw [List.map_append] at honce
  obtain ⟨r', hadds, htaken⟩ := exists_registerAll_append hbefore honce.of_append_left hnew
  have hknown : r'.contains clash.type = true := hadds.contains_iff.2 (.inl hclash)
  have hrefused : r'.register clash = .error (.duplicate clash.type) := by
    simp only [register, if_neg htype, hconstructor, if_pos hknown]
  refine ⟨r', ?_, hadds⟩
  rw [htaken, registerAll, hrefused]

end Registry

/-! ## What comes with the library -/

/-- A registration of a type that comes with the library, for one of the two registries. -/
inductive Builtin where
  | module (given : Registration ModuleConstructor)
  | processor (given : Registration ProcessorConstructor)

namespace Builtin

/-- All of them, in the order in which they are registered. -/
def inOrder : List Builtin := Module.builtins.map .module ++ Processor.builtins.map .processor

/-- The type that is registered, on the side of modules or on that of processors. -/
def type : Builtin → String ⊕ String
  | .module given => .inl given.type
  | .processor given => .inr given.type

/-- The seventeen types, modules before processors. -/
def types : List (String ⊕ String) :=
  [.inl "net.tcp.client", .inl "net.tcp.server", .inl "net.udp.server", .inl "net.udp.client",
    .inl "time.interval", .inr "string.decode", .inr "string.encode", .inr "string.filter",
    .inr "string.template", .inr "int.parse", .inr "float.parse", .inr "float.scale",
    .inr "float.clamp", .inr "expr.evaluate", .inr "json.decode", .inr "json.encode",
    .inr "debug.log"]

theorem map_type_inOrder : inOrder.map type = types := by decide

/-- Whether the registry that it is for knows its type. -/
def isHeldBy (r : Registries) : Builtin → Bool
  | .module given => r.modules.contains given.type
  | .processor given => r.processors.contains given.type

/-- How its refusal reads when its type is known. -/
def clash (r : Registries) : Builtin → String
  | .module given => r.modules.kind ++ " type " ++ given.type ++ " is already registered"
  | .processor given => r.processors.kind ++ " type " ++ given.type ++ " is already registered"

/-- Those for the registry of modules. -/
def modules (all : List Builtin) : List (Registration ModuleConstructor) :=
  all.filterMap fun
    | .module given => some given
    | .processor _ => none

/-- Those for the registry of processors. -/
def processors (all : List Builtin) : List (Registration ProcessorConstructor) :=
  all.filterMap fun
    | .module _ => none
    | .processor given => some given

variable (ms : List (Registration ModuleConstructor)) (ps : List (Registration ProcessorConstructor))

theorem modules_map_module : modules (ms.map .module) = ms := by
  simp [modules, List.filterMap_map]

theorem processors_map_module : processors (ms.map .module) = [] := by
  simp [processors, List.filterMap_map]

theorem modules_append : modules (ms.map .module ++ ps.map .processor) = ms := by
  simp [modules, List.filterMap_map]

theorem processors_append : processors (ms.map .module ++ ps.map .processor) = ps := by
  simp [processors, List.filterMap_map]

theorem forall_mem_append {r : Registries} :
    (∀ b ∈ ms.map .module ++ ps.map .processor, isHeldBy r b = false) ↔
      (∀ given ∈ ms, r.modules.contains given.type = false) ∧
        ∀ given ∈ ps, r.processors.contains given.type = false := by
  simp only [List.forall_mem_append, List.forall_mem_map]
  rfl

end Builtin

namespace Registries

variable {r r' : Registries}

/-- Each registry holds what it held and what is for it, and nothing else. -/
structure Gains (r : Registries) (added : List Builtin) (r' : Registries) : Prop where
  modules : r.modules.Adds (Builtin.modules added) r'.modules
  processors : r.processors.Adds (Builtin.processors added) r'.processors

theorem usable_modules : ∀ given ∈ Module.builtins, given.Usable := by decide

theorem usable_processors : ∀ given ∈ Processor.builtins, given.Usable := by decide

theorem nodup_modules : (Module.builtins.map Registration.type).Nodup := by decide

theorem nodup_processors : (Processor.builtins.map Registration.type).Nodup := by decide

/-! ### Taken and refused -/

/-- The registry of modules comes first, and a refusal by it is the end. -/
theorem registerBuiltins_of_modules_refused {fault : RegistrationFault}
    {registry : Registry ModuleConstructor}
    (h : r.modules.registerAll Module.builtins = (some fault, registry)) :
    r.registerBuiltins =
      (some (fault.message r.modules.kind), { r with modules := registry }) := by
  rw [registerBuiltins, registerAll, h]

theorem registerBuiltins_of_modules_taken {fault : Option RegistrationFault}
    {modules : Registry ModuleConstructor} {processors : Registry ProcessorConstructor}
    (hmodules : r.modules.registerAll Module.builtins = (none, modules))
    (hprocessors : r.processors.registerAll Processor.builtins = (fault, processors)) :
    r.registerBuiltins =
      (fault.map (·.message r.processors.kind), ⟨modules, processors⟩) := by
  rw [registerBuiltins, registerAll, hmodules]
  simp only [hprocessors]

theorem registerBuiltins_of_fresh (h : ∀ b ∈ Builtin.inOrder, b.isHeldBy r = false) :
    ∃ r', r.registerBuiltins = (none, r') ∧ r.Gains Builtin.inOrder r' := by
  obtain ⟨hm, hp⟩ := (Builtin.forall_mem_append _ _).1 h
  obtain ⟨modules, hmodules, hms⟩ := Registry.exists_registerAll usable_modules nodup_modules hm
  obtain ⟨processors, hprocessors, hps⟩ :=
    Registry.exists_registerAll usable_processors nodup_processors hp
  refine ⟨_, registerBuiltins_of_modules_taken hmodules hprocessors, ?_, ?_⟩
  · rw [Builtin.inOrder, Builtin.modules_append]
    exact hms
  · rw [Builtin.inOrder, Builtin.processors_append]
    exact hps

theorem registerBuiltins_of_module_held {ms more : List (Registration ModuleConstructor)}
    {given : Registration ModuleConstructor} (hsplit : Module.builtins = ms ++ given :: more)
    (hnew : ∀ other ∈ ms, r.modules.contains other.type = false)
    (hheld : r.modules.contains given.type = true) :
    ∃ r', r.registerBuiltins = (some (Builtin.clash r (.module given)), r') ∧
      r.Gains (ms.map .module) r' := by
  have husable := usable_modules
  have honce := nodup_modules
  rw [hsplit] at husable honce
  obtain ⟨modules, hmodules, hms⟩ :=
    Registry.exists_registerAll_clash husable honce hnew hheld
  rw [← hsplit] at hmodules
  refine ⟨_, registerBuiltins_of_modules_refused hmodules, ?_, ?_⟩
  · rw [Builtin.modules_map_module]
    exact hms
  · rw [Builtin.processors_map_module]
    exact .refl r.processors

theorem registerBuiltins_of_processor_held {ps more : List (Registration ProcessorConstructor)}
    {given : Registration ProcessorConstructor} (hsplit : Processor.builtins = ps ++ given :: more)
    (hmodules : ∀ other ∈ Module.builtins, r.modules.contains other.type = false)
    (hnew : ∀ other ∈ ps, r.processors.contains other.type = false)
    (hheld : r.processors.contains given.type = true) :
    ∃ r', r.registerBuiltins = (some (Builtin.clash r (.processor given)), r') ∧
      r.Gains (Module.builtins.map .module ++ ps.map .processor) r' := by
  have husable := usable_processors
  have honce := nodup_processors
  rw [hsplit] at husable honce
  obtain ⟨modules, htaken, hms⟩ :=
    Registry.exists_registerAll usable_modules nodup_modules hmodules
  obtain ⟨processors, hrefused, hps⟩ :=
    Registry.exists_registerAll_clash husable honce hnew hheld
  rw [← hsplit] at hrefused
  refine ⟨_, registerBuiltins_of_modules_taken htaken hrefused, ?_, ?_⟩
  · rw [Builtin.modules_append]
    exact hms
  · rw [Builtin.processors_append]
    exact hps

/-- The first item of a list that has a property. -/
theorem exists_first {α : Type} {p : α → Bool} {all : List α} (h : ¬ ∀ a ∈ all, p a = false) :
    ∃ before a after, all = before ++ a :: after ∧ (∀ b ∈ before, p b = false) ∧ p a = true := by
  cases hfind : all.find? p with
  | none =>
    refine absurd (fun a ha => ?_) h
    simpa using List.find?_eq_none.1 hfind a ha
  | some a =>
    obtain ⟨ha, before, after, hsplit, hbefore⟩ := List.find?_eq_some_iff_append.1 hfind
    refine ⟨before, a, after, hsplit, fun b hb => ?_, ha⟩
    simpa using hbefore b hb

/-- When a type is known, the first one that is decides. -/
theorem registerBuiltins_of_held (h : ∃ b ∈ Builtin.inOrder, b.isHeldBy r = true) :
    ∃ before b after r', Builtin.inOrder = before ++ b :: after ∧
      (∀ other ∈ before, other.isHeldBy r = false) ∧ b.isHeldBy r = true ∧
      r.registerBuiltins = (some (b.clash r), r') ∧ r.Gains before r' := by
  by_cases hm : ∀ given ∈ Module.builtins, r.modules.contains given.type = false
  · have hp : ¬ ∀ given ∈ Processor.builtins, r.processors.contains given.type = false := by
      intro hp
      obtain ⟨b, hb, hheld⟩ := h
      have hnone := (Builtin.forall_mem_append _ _).2 ⟨hm, hp⟩ b hb
      exact Bool.false_ne_true (hnone.symm.trans hheld)
    obtain ⟨ps, given, more, hsplit, hnew, hheld⟩ := exists_first hp
    obtain ⟨r', hr', hgains⟩ := registerBuiltins_of_processor_held hsplit hm hnew hheld
    refine ⟨_, .processor given, more.map .processor, r', ?_, ?_, hheld, hr', hgains⟩
    · rw [Builtin.inOrder, hsplit, List.map_append, List.map_cons, List.append_assoc]
    · exact (Builtin.forall_mem_append _ _).2 ⟨hm, hnew⟩
  · obtain ⟨ms, given, more, hsplit, hnew, hheld⟩ := exists_first hm
    obtain ⟨r', hr', hgains⟩ := registerBuiltins_of_module_held hsplit hnew hheld
    refine ⟨_, .module given, more.map .module ++ Processor.builtins.map .processor, r', ?_, ?_,
      hheld, hr', hgains⟩
    · rw [Builtin.inOrder, hsplit, List.map_append, List.map_cons, List.append_assoc,
        List.cons_append]
    · exact List.forall_mem_map.2 hnew

/-! ### What was known before, and the other registry -/

theorem exists_gains_registerBuiltins (r : Registries) :
    ∃ added, r.Gains added r.registerBuiltins.2 := by
  by_cases h : ∀ b ∈ Builtin.inOrder, b.isHeldBy r = false
  · obtain ⟨r', hr', hgains⟩ := registerBuiltins_of_fresh h
    rw [hr']
    exact ⟨_, hgains⟩
  · have hheld : ∃ b ∈ Builtin.inOrder, b.isHeldBy r = true := by simpa using h
    obtain ⟨before, b, after, r', -, -, -, hr', hgains⟩ := registerBuiltins_of_held hheld
    rw [hr']
    exact ⟨_, hgains⟩

/-- The registry of processors has no say in what becomes of that of modules. -/
theorem modules_registerBuiltins_of_processors (r : Registries)
    (processors : Registry ProcessorConstructor) :
    (registerBuiltins ⟨r.modules, processors⟩).2.modules = r.registerBuiltins.2.modules := by
  rw [registerBuiltins, registerBuiltins, modules_registerAll, modules_registerAll]

/-- Nor has the registry of modules in what becomes of that of processors, as long as it takes all
that is for it. -/
theorem processors_registerBuiltins_of_modules (modules : Registry ModuleConstructor)
    (hmodules : ∀ given ∈ Module.builtins, modules.contains given.type = false)
    (hr : ∀ given ∈ Module.builtins, r.modules.contains given.type = false) :
    (registerBuiltins ⟨modules, r.processors⟩).1 = r.registerBuiltins.1 ∧
      (registerBuiltins ⟨modules, r.processors⟩).2.processors =
        r.registerBuiltins.2.processors := by
  obtain ⟨taken, htaken, -⟩ := Registry.exists_registerAll usable_modules nodup_modules hmodules
  obtain ⟨taken', htaken', -⟩ := Registry.exists_registerAll usable_modules nodup_modules hr
  rw [registerBuiltins_of_modules_taken htaken rfl, registerBuiltins_of_modules_taken htaken' rfl]
  exact ⟨rfl, rfl⟩

/-- **Registering what comes with the library is exact.** It is seventeen types in their order. When
none of them is known to the registry that it is for, each registry gains those that are for it.
Otherwise the first one that is known, in order, is refused by its name, and the registries gain
those before it. What was known before is found as before, and a type that only the other registry
knows makes no difference. -/
theorem registerBuiltins_exact (r : Registries) :
    Builtin.inOrder.map Builtin.type = Builtin.types ∧
    ((∀ b ∈ Builtin.inOrder, b.isHeldBy r = false) →
      ∃ r', r.registerBuiltins = (none, r') ∧ r.Gains Builtin.inOrder r') ∧
    ((∃ b ∈ Builtin.inOrder, b.isHeldBy r = true) →
      ∃ before b after r', Builtin.inOrder = before ++ b :: after ∧
        (∀ other ∈ before, other.isHeldBy r = false) ∧ b.isHeldBy r = true ∧
        r.registerBuiltins = (some (b.clash r), r') ∧ r.Gains before r') ∧
    (∀ type constructor, r.modules.lookup type = some constructor →
      r.registerBuiltins.2.modules.lookup type = some constructor) ∧
    (∀ type constructor, r.processors.lookup type = some constructor →
      r.registerBuiltins.2.processors.lookup type = some constructor) ∧
    (∀ processors, (registerBuiltins ⟨r.modules, processors⟩).2.modules =
      r.registerBuiltins.2.modules) ∧
    ∀ modules : Registry ModuleConstructor,
      (∀ given ∈ Module.builtins, modules.contains given.type = false) →
      (∀ given ∈ Module.builtins, r.modules.contains given.type = false) →
      (registerBuiltins ⟨modules, r.processors⟩).1 = r.registerBuiltins.1 ∧
        (registerBuiltins ⟨modules, r.processors⟩).2.processors =
          r.registerBuiltins.2.processors := by
  obtain ⟨added, hgains⟩ := exists_gains_registerBuiltins r
  refine ⟨Builtin.map_type_inOrder, registerBuiltins_of_fresh, registerBuiltins_of_held, ?_, ?_, ?_,
    ?_⟩
  · intro type constructor h
    exact hgains.modules.lookup_eq_some h
  · intro type constructor h
    exact hgains.processors.lookup_eq_some h
  · exact modules_registerBuiltins_of_processors r
  · intro modules hmodules hr
    exact processors_registerBuiltins_of_modules modules hmodules hr

/-- Names in the wrong registry are no obstacle, and then the names in the right ones: of these the
third of the modules comes first. -/
theorem registerBuiltins_exact_crossed :
    let mock : ModuleConstructor := fun config => (Mock.ofConfig config).map .mock
    let crossed : Registries := ⟨⟨"module", [("int.parse", mock)]⟩,
      ⟨"processor", [("net.udp.server", Processor.append)]⟩⟩
    let known : Registries := ⟨⟨"module", [("net.udp.server", mock)]⟩,
      ⟨"processor", [("int.parse", Processor.append)]⟩⟩
    (∃ r', crossed.registerBuiltins = (none, r') ∧ crossed.Gains Builtin.inOrder r') ∧
      (registerBuiltins ⟨⟨"module", []⟩, crossed.processors⟩).1 = none ∧
      crossed.registerBuiltins.2.modules.lookup "int.parse" = some mock ∧
      crossed.registerBuiltins.2.processors.lookup "net.udp.server" = some Processor.append ∧
      known.registerBuiltins.1 = some "module type net.udp.server is already registered" ∧
      ∃ before b after r', Builtin.inOrder = before ++ b :: after ∧
        known.registerBuiltins = (some (b.clash known), r') ∧ known.Gains before r' := by
  intro mock crossed known
  obtain ⟨-, hfresh, -, hmodules, hprocessors, -, hapart⟩ := registerBuiltins_exact crossed
  obtain ⟨-, -, hheld, -⟩ := registerBuiltins_exact known
  have hcrossed := hfresh (by decide)
  refine ⟨hcrossed, ?_, hmodules _ _ rfl, hprocessors _ _ rfl, by decide, ?_⟩
  · obtain ⟨r', hr', -⟩ := hcrossed
    rw [(hapart ⟨"module", []⟩ (by decide) (by decide)).1, hr']
  · obtain ⟨before, b, after, r', hsplit, -, -, hr', hgains⟩ :=
      hheld ⟨.processor (Processor.fixed Processor.intParse),
        by simp [Builtin.inOrder, Processor.builtins], by decide⟩
    exact ⟨before, b, after, r', hsplit, hr', hgains⟩

end Registries

end Switchboard
