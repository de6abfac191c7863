import Switchboard.Proofs.Module.Keys
import Switchboard.Proofs.Processor.Keys
import Switchboard.Proofs.Registry

/-!
# Which keys constructors read

A constructor that comes with the library looks only at the keys of its type, in their order, and
reports the first that it cannot accept.
-/

namespace Switchboard.Registries

open Key (ReadsAll)

/-- **Constructors look only at the keys of their type and report the first bad one.** What they make
of two tables of parameters that agree on these keys is the same. They fail for the first key that is
absent and must be there, or whose value is of the wrong type or otherwise cannot be accepted. Only
then do the steps that scale and clamp numbers compare what they have read. -/
theorem constructors_read_their_keys :
    (∀ type constructor, builtins.modules.lookup type = some constructor →
      ∀ id given, ReadsAll (Module.keys type) (fun _ => none) fun p => constructor ⟨id, given, p⟩) ∧
    (∀ type constructor, builtins.processors.lookup type = some constructor →
      ReadsAll (Processor.keys type) (Processor.together type) constructor) := by
  constructor
  · intro type constructor h id given
    obtain ⟨registration, hmem, rfl, hconstructor⟩ := mem_of_lookup_builtin_modules h
    exact Module.readsAll_of_mem_builtins id given hmem hconstructor
  · intro type constructor h
    obtain ⟨registration, hmem, rfl, hconstructor⟩ := mem_of_lookup_builtins h
    exact Processor.readsAll_of_mem_builtins hmem hconstructor

/-- A client refused for its port, whatever its framing and an unknown key are, and bounds of which
the second is a text. -/
theorem constructors_read_their_keys_unaccepted :
    let port : Params := ⟨[("framing", .string "none"), ("host", .string "a"),
      ("port", .number (.integer 65536))]⟩
    let bounds : Params := ⟨[("max", .string "1"), ("min", .number (.integer 2))]⟩
    let client : ModuleConstructor := fun config => (TcpClient.ofConfig config).map .tcpClient
    builtins.modules.lookup "net.tcp.client" = some client ∧
      client ⟨"a", "net.tcp.client", port⟩ =
        .error (.param (.invalid "port" "65536 is not a valid port")) ∧
      client ⟨"a", "net.tcp.client", port.insert "speed" .null⟩ =
        client ⟨"a", "net.tcp.client", port⟩ ∧
      builtins.processors.lookup "float.clamp" = some Processor.floatClamp ∧
      Processor.floatClamp bounds = .error (.param (.wrongType "max" .float)) := by
  intro port bounds client
  have hclient : builtins.modules.lookup "net.tcp.client" = some client := rfl
  have hclamp : builtins.processors.lookup "float.clamp" = some Processor.floatClamp := rfl
  have hreads := constructors_read_their_keys.1 _ _ hclient "a" "net.tcp.client"
  have hreads' := constructors_read_their_keys.2 _ _ hclamp
  refine ⟨hclient, ?_, ?_, hclamp, ?_⟩
  · refine (hreads.error_iff port _).2 (.inl ⟨[_], _, _, rfl, rfl, ?_⟩)
    simp only [List.forall_mem_singleton]
    rfl
  · apply hreads.agree
    intro k hk
    simp only [Module.keys, List.mem_cons, List.not_mem_nil, or_false] at hk
    rcases hk with rfl | rfl | rfl | rfl <;> rfl
  · refine (hreads'.error_iff bounds _).2 (.inl ⟨[_], _, _, rfl, rfl, ?_⟩)
    simp only [List.forall_mem_singleton]
    rfl

end Switchboard.Registries
