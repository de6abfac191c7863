import Switchboard.Proofs.Module.Construction
import Switchboard.Registry.Builtin

/-!
# What registries know

A registry knows what has been registered and nothing else.
-/

namespace Switchboard

namespace Registry

variable {C : Type} {r r' : Registry C} {given : Registration C} {type : String} {constructor : C}

theorem lookup_register (h : r.register given = .ok r') (hlookup : r'.lookup type = some constructor) :
    r.lookup type = some constructor ∨
      given.type = type ∧ given.constructor = some constructor := by
  unfold register at h
  split at h
  · nomatch h
  · split at h
    · nomatch h
    · next brought hbrought =>
      split at h
      · nomatch h
      · obtain rfl := Except.ok.inj h
        rw [lookup, Table.find?_insert] at hlookup
        split at hlookup
        · next htype => exact .inr ⟨htype, hbrought.trans hlookup⟩
        · exact .inl hlookup

theorem lookup_registerAll {all : List (Registration C)}
    (h : (r.registerAll all).2.lookup type = some constructor) :
    r.lookup type = some constructor ∨
      ∃ given ∈ all, given.type = type ∧ given.constructor = some constructor := by
  induction all generalizing r with
  | nil => exact .inl h
  | cons given rest ih =>
    unfold registerAll at h
    split at h
    · next r' hr' =>
      rcases ih h with hr | ⟨other, hother, hconstructor⟩
      · rcases lookup_register hr' hr with hr | hgiven
        · exact .inl hr
        · exact .inr ⟨given, List.mem_cons_self, hgiven⟩
      · exact .inr ⟨other, List.mem_cons_of_mem _ hother, hconstructor⟩
    · exact .inl h

end Registry

namespace Registries

variable {registries : Registries}

theorem modules_registerAll (modules : List (Registration ModuleConstructor))
    (processors : List (Registration ProcessorConstructor)) :
    (registries.registerAll modules processors).2.modules =
      (registries.modules.registerAll modules).2 := by
  unfold registerAll
  split
  · next hmodules => rw [hmodules]
  · next hmodules => rw [hmodules]

/-- The program knows no modules but those of the library. -/
theorem fromLibrary_of_lookup_all {type : String} {constructor : ModuleConstructor}
    (h : all.modules.lookup type = some constructor) : Module.FromLibrary constructor := by
  rw [all, registerTrials, modules_registerAll, builtins, registerBuiltins,
    modules_registerAll] at h
  rcases Registry.lookup_registerAll h with h | ⟨given, hgiven, -, hconstructor⟩
  · rcases Registry.lookup_registerAll h with h | ⟨given, hgiven, -, hconstructor⟩
    · nomatch h
    · exact ⟨given, List.mem_append_left _ hgiven, hconstructor⟩
  · exact ⟨given, List.mem_append_right _ hgiven, hconstructor⟩

/-- A module that is known for use has been registered as one. -/
theorem mem_of_lookup_builtin_modules {type : String} {constructor : ModuleConstructor}
    (h : builtins.modules.lookup type = some constructor) :
    ∃ given ∈ Module.builtins, given.type = type ∧ given.constructor = some constructor := by
  rw [builtins, registerBuiltins, modules_registerAll] at h
  rcases Registry.lookup_registerAll h with h | hgiven
  · nomatch h
  · exact hgiven

/-- A processor that is known for use has been registered as one. -/
theorem mem_of_lookup_builtins {type : String} {constructor : ProcessorConstructor}
    (h : builtins.processors.lookup type = some constructor) :
    ∃ given ∈ Processor.builtins, given.type = type ∧ given.constructor = some constructor := by
  unfold builtins registerBuiltins registerAll at h
  split at h
  · nomatch h
  · rcases Registry.lookup_registerAll h with h | hgiven
    · nomatch h
    · exact hgiven

end Registries

end Switchboard
