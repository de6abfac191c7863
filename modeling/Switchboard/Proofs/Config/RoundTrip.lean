import Mathlib
import Switchboard.Proofs.Config.Agreement
import Switchboard.Proofs.Config.Shape

/-!
# Configurations on paper and back

A configuration is read back from its text. Every text that is read as a configuration whose
parameters hold integers of 64 bits only comes to a normal form, and what the text leaves out is
empty.
-/

namespace Switchboard.Config

open Json (WellFormed)

/-- A configuration that has been read can be written and read again. -/
theorem ofJsonText_serialize {document : String} {c : Config}
    (h : Config.ofJsonText document = .ok c)
    (hnumbers : ∀ p ∈ c.params, ∀ n ∈ p.toJson.numbers, n.Exact) :
    Config.ofJsonText c.serialize = .ok c := by
  rw [Config.ofJsonText] at h
  obtain ⟨rest, hread, -⟩ := Json.exists_of_readDocument h
  obtain ⟨hform, hdepth⟩ := fits_of_reader 121 hread
  have hexact : ∀ p ∈ c.params, WellFormed JsonNumber.Exact p.toJson :=
    fun p hp => (hform p hp).of_numbers (hnumbers p hp)
  exact ofJsonText_text c.written_toDocument hexact hdepth

/-- **Configurations go to text and back.** A configuration is read from its serialisation, and from
every document in which empty parts are left out. Of every text that is read as a configuration, the
serialisation is read as the same configuration and serialised as the same text; and the
configuration is the one that the value of the text says, in which absent parts are empty. -/
theorem ofJsonText_roundTrip :
    (∀ c : Config, (∀ p ∈ c.params, WellFormed JsonNumber.Exact p.toJson) →
      (c.toDocument.depth ≤ 127 → Config.ofJsonText c.serialize = .ok c) ∧
        ∀ j, c.Written j → j.depth ≤ 127 → Config.ofJsonText j.text = .ok c) ∧
    ∀ (document : String) (c : Config), Config.ofJsonText document = .ok c →
      ((∀ p ∈ c.params, ∀ n ∈ p.toJson.numbers, n.Exact) →
        Config.ofJsonText c.serialize = .ok c ∧
          (Config.ofJsonText c.serialize).map Config.serialize = .ok c.serialize) ∧
        ∀ v, Json.readText document = .ok v → Config.ofValue? v = some c := by
  constructor
  · intro c hexact
    have hwritten : ∀ j, c.Written j → j.depth ≤ 127 → Config.ofJsonText j.text = .ok c :=
      fun j hj hdepth => ofJsonText_text hj hexact hdepth
    exact ⟨hwritten _ c.written_toDocument, hwritten⟩
  · intro document c h
    refine ⟨fun hnumbers => ?_, fun v hv => ofValue?_of_ofJsonText h hv⟩
    have hagain := ofJsonText_serialize h hnumbers
    exact ⟨hagain, by rw [hagain, Except.map]⟩

/-- A module with parameters and a step without, then a text without routes and parameters. -/
theorem ofJsonText_roundTrip_parts :
    Config.ofJsonText
        (Config.mk [⟨"desk", "udp", ⟨[("ports", .array [.number (.integer (-1))])]⟩⟩]
          [⟨"desk", [⟨"pass", .empty⟩], "desk"⟩]).serialize =
      .ok ⟨[⟨"desk", "udp", ⟨[("ports", .array [.number (.integer (-1))])]⟩⟩],
        [⟨"desk", [⟨"pass", .empty⟩], "desk"⟩]⟩ ∧
    Config.ofJsonText (Json.object []).text = .ok ⟨[], []⟩ ∧
    Config.ofJsonText (Config.mk [⟨"desk", "udp", .empty⟩] []).serialize =
      .ok ⟨[⟨"desk", "udp", .empty⟩], []⟩ ∧
    Config.ofValue? (.object [("modules", .array [.array [.string "desk", .string "udp"]])]) =
      some ⟨[⟨"desk", "udp", .empty⟩], []⟩ := by
  obtain ⟨hconfigs, htexts⟩ := ofJsonText_roundTrip
  have hparams : ∀ p ∈ (Config.mk [⟨"desk", "udp", ⟨[("ports", .array [.number (.integer (-1))])]⟩⟩]
      [⟨"desk", [⟨"pass", .empty⟩], "desk"⟩]).params, WellFormed JsonNumber.Exact p.toJson := by
    refine forall_mem_params.2 ⟨List.forall_mem_singleton.2 ?_, List.forall_mem_singleton.2
      (List.forall_mem_singleton.2 (.object Table.sorted_nil (List.forall_mem_nil _)))⟩
    refine .object (List.pairwise_singleton _ _) (List.forall_mem_singleton.2 ?_)
    have hlong : JsonNumber.IsLong (-1) := by decide
    exact .array (List.forall_mem_singleton.2 (.number hlong))
  have hdocument : Config.ofJsonText " \x7b\"modules\": [[\"desk\", \"udp\"]]\x7d" =
      .ok ⟨[⟨"desk", "udp", .empty⟩], []⟩ := by cbv
  have hvalue : Json.readText " \x7b\"modules\": [[\"desk\", \"udp\"]]\x7d" =
      .ok (.object [("modules", .array [.array [.string "desk", .string "udp"]])]) := by cbv
  obtain ⟨hagain, hsays⟩ := htexts _ _ hdocument
  have hnumbers : ∀ p ∈ (Config.mk [⟨"desk", "udp", .empty⟩] []).params,
      ∀ n ∈ p.toJson.numbers, n.Exact :=
    forall_mem_params.2
      ⟨List.forall_mem_singleton.2 (List.forall_mem_nil _), List.forall_mem_nil _⟩
  have hempty : Config.Written ⟨[], []⟩ (.object []) := ⟨[], [], .absent, .absent, rfl⟩
  exact ⟨(hconfigs _ hparams).1 (by decide),
    (hconfigs ⟨[], []⟩ (List.forall_mem_nil _)).2 _ hempty (by decide), (hagain hnumbers).1,
    hsays _ hvalue⟩

end Switchboard.Config
