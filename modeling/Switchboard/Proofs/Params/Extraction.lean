import Mathlib
import Switchboard.Config.Reader
import Switchboard.Proofs.Json.RecordParts
import Switchboard.Proofs.Params.Getters
import Switchboard.Proofs.Table

/-!
# Parameters by the value that was bound last

A table of parameters begins as the fields of a document and changes when keys are bound. What it
answers about a key depends on the last binding of that key alone, be it in the document or later.
-/

namespace Switchboard

/-- The fields of a document that is an object, in the order in which they stand there. A key that
stands there twice is among them twice. -/
def Json.HasFields (document : Bytes) (fields : List (String × Json)) : Prop :=
  ∃ inner tail rest, maxDepth = inner + 1 ∧ skipSpace document = 0x7B :: tail ∧
    Fields (readValue (document.length + 1) inner) true tail fields rest ∧ skipSpace rest = []

namespace Params

/-- The table after keys have been bound, one after the other. -/
def bindAll (p : Params) (bindings : List (String × Json)) : Params :=
  bindings.foldl (fun p binding => p.insert binding.1 binding.2) p

/-- The value that a key is bound to last. -/
def lastBound (key : String) (bindings : List (String × Json)) : Option Json :=
  bindings.reverse.lookup key

/-- What a table answers about a key by the value that it was bound to last. A key is not found when
it is absent. Else the value decides: it is accepted, or refused. Another key can be bound without a
difference. A default stands for a key that is absent, and for nothing else. -/
structure Extracts (p : Params) (key : String) (last : Option Json) : Prop where
  contains : p.contains key = last.isSome
  raw (v : Json) : p.get key = .ok v ↔ last = some v
  rawAbsent : p.get key = .error (.notFound key) ↔ last = none
  absent {α : Type} (g : Getter α) : g.get p key = .error (.notFound key) ↔ last = none
  accepted {α : Type} (g : Getter α) (a : α) :
    g.get p key = .ok a ↔ ∃ v, last = some v ∧ g.Accepts v a
  refused {α : Type} (g : Getter α) (v : Json) (hlast : last = some v)
    (hv : ∀ a, ¬ g.Accepts v a) : g.get p key = .error (g.refusal key v)
  apart {α : Type} (g : Getter α) (other : String) (v : Json) (hne : other ≠ key) :
    g.get (p.insert other v) key = g.get p key
  int (i : Int) (hlast : last = some (.ofInt i)) :
    (∃ n, p.getInt key = .ok n) ↔ -0x8000000000000000 ≤ i ∧ i ≤ 0x7FFFFFFFFFFFFFFF
  uint (i : Int) (hlast : last = some (.ofInt i)) :
    (∃ n, p.getUint key = .ok n) ↔ 0 ≤ i ∧ i ≤ 0xFFFFFFFFFFFFFFFF
  port (i : Int) (hlast : last = some (.ofInt i)) :
    (∃ n, p.getPort key = .ok n) ↔ 0 ≤ i ∧ i ≤ 65535
  portInvalid (i : Int) (hlast : last = some (.ofInt i)) :
    (∃ reason, p.getPort key = .error (.invalid key reason)) ↔
      65536 ≤ i ∧ i ≤ 0xFFFFFFFFFFFFFFFF
  fraction (f : Float) (hlast : last = some (.number (.float f))) :
    p.getInt key = .error (.wrongType key .int) ∧ p.getUint key = .error (.wrongType key .uint) ∧
      p.getPort key = .error (.wrongType key .uint)
  number (n : JsonNumber) (hlast : last = some (.number n)) : p.getFloat key = .ok n.toFloat
  default {α : Type} {g : Getter α} {getD : Params → String → α → Except ParamError α}
    (hgetD : g.Defaults getD) (d : α) :
    getD p key d = if last.isNone then .ok d else g.get p key

variable {α : Type} {g : Getter α} {p : Params} {key : String} {i : Int}

/-! ## One table -/

theorem exists_int64_iff :
    (∃ n : Int64, i = n.toInt) ↔ -0x8000000000000000 ≤ i ∧ i ≤ 0x7FFFFFFFFFFFFFFF := by
  constructor
  · rintro ⟨n, rfl⟩
    have hle := n.le_toInt
    have hlt := n.toInt_lt
    omega
  · intro h
    exact ⟨.ofInt i, (Int64.toInt_ofInt_of_le (by omega) (by omega)).symm⟩

theorem exists_uint64_iff : (∃ n : UInt64, i = n.toNat) ↔ 0 ≤ i ∧ i ≤ 0xFFFFFFFFFFFFFFFF := by
  constructor
  · rintro ⟨n, rfl⟩
    have hlt := n.toNat_lt
    omega
  · intro h
    have hlt : i.toNat < 2 ^ 64 := by omega
    exact ⟨.ofNat i.toNat, by rw [UInt64.toNat_ofNat_of_lt' hlt, Int.toNat_of_nonneg h.1]⟩

theorem exists_uint16_iff : (∃ n : UInt16, i = n.toNat) ↔ 0 ≤ i ∧ i ≤ 65535 := by
  constructor
  · rintro ⟨n, rfl⟩
    have hlt := n.toNat_lt
    omega
  · intro h
    have hlt : i.toNat < 2 ^ 16 := by omega
    exact ⟨.ofNat i.toNat, by rw [UInt16.toNat_ofNat_of_lt' hlt, Int.toNat_of_nonneg h.1]⟩

theorem ofInt_inj {j : Int} : Json.ofInt i = .ofInt j ↔ i = j := by
  rw [Json.ofInt, Json.ofInt, Json.number.injEq, JsonNumber.integer.injEq]

theorem find?_insert (p : Params) (other : String) (v : Json) (key : String) :
    (p.insert other v).fields.find? key =
      if other = key then some v else p.fields.find? key :=
  Table.find?_insert other key v p.fields

theorem get_eq_raw : p.get key =
    match p.fields.find? key with
    | some v => .ok v
    | none => .error (.notFound key) := rfl

/-- An integer is accepted when it is the value of a number of the getter's type. -/
theorem exists_ok_iff_of_ofInt (hlast : p.fields.find? key = some (.ofInt i)) :
    (∃ a, g.get p key = .ok a) ↔ ∃ a, g.Accepts (.ofInt i) a := by
  refine exists_congr fun a => ?_
  rw [g.get_eq_answer, Getter.answer_eq_ok_iff, hlast]
  simp

theorem port_answer_eq_invalid_iff :
    (∃ reason, Getter.port.answer key (some (.ofInt i)) = .error (.invalid key reason)) ↔
      65536 ≤ i ∧ i ≤ 0xFFFFFFFFFFFFFFFF := by
  by_cases hport : ∃ n : UInt16, i = n.toNat
  · have hi := exists_uint16_iff.1 hport
    obtain ⟨n, rfl⟩ := hport
    have hok : Getter.port.answer key (some (.ofInt n.toNat)) = .ok n :=
      Getter.answer_eq_ok_iff.2 ⟨_, rfl, rfl⟩
    rw [hok]
    exact iff_of_false (by simp) (by omega)
  · have hi := fun h => hport (exists_uint16_iff.2 h)
    have hrefused : ∀ n, ¬ Getter.port.Accepts (.ofInt i) n := by
      intro n hn
      exact hport ⟨n, ofInt_inj.1 hn⟩
    rw [Getter.answer_of_refused hrefused]
    simp only [Getter.refusal, Json.ofInt, Getter.portRefusal]
    split
    · next hrange => exact iff_of_true ⟨_, rfl⟩ hrange
    · next hrange => exact iff_of_false (by simp) hrange

theorem extracts (p : Params) (key : String) : Extracts p key (p.fields.find? key) where
  contains := rfl
  raw v := by
    rw [get_eq_raw]
    cases p.fields.find? key <;> simp
  rawAbsent := by
    rw [get_eq_raw]
    cases p.fields.find? key <;> simp
  absent g := by
    rw [g.get_eq_answer, Getter.answer_eq_notFound_iff]
    exact and_iff_left rfl
  accepted g a := by
    rw [g.get_eq_answer, Getter.answer_eq_ok_iff]
  refused g v hlast hv := by
    rw [g.get_eq_answer, hlast, Getter.answer_of_refused hv]
  apart g other v hne := by
    rw [g.get_eq_answer, g.get_eq_answer, find?_insert, if_neg hne]
  int i hlast := by
    have h := exists_ok_iff_of_ofInt (g := .int) hlast
    simp only [Getter.Accepts, ofInt_inj, exists_int64_iff] at h
    exact h
  uint i hlast := by
    have h := exists_ok_iff_of_ofInt (g := .uint) hlast
    simp only [Getter.Accepts, ofInt_inj, exists_uint64_iff] at h
    exact h
  port i hlast := by
    have h := exists_ok_iff_of_ofInt (g := .port) hlast
    simp only [Getter.Accepts, ofInt_inj, exists_uint16_iff] at h
    exact h
  portInvalid i hlast := by
    rw [Getter.getPort_eq, hlast]
    exact port_answer_eq_invalid_iff
  fraction f hlast := by
    refine ⟨?_, ?_, ?_⟩
    · exact (Getter.int.get_eq_answer p key).trans (by rw [hlast]; rfl)
    · exact (Getter.uint.get_eq_answer p key).trans (by rw [hlast]; rfl)
    · exact (Getter.port.get_eq_answer p key).trans (by rw [hlast]; rfl)
  number n hlast := (Getter.float.get_eq_answer p key).trans (by rw [hlast]; rfl)
  default hgetD d := by
    rw [hgetD.eq, Getter.get_eq_answer, Getter.orDefault_answer]

/-! ## Documents and later bindings -/

theorem fields_bindAll (p : Params) (bindings : List (String × Json)) :
    (p.bindAll bindings).fields =
      bindings.foldl (fun t binding => t.insert binding.1 binding.2) p.fields := by
  induction bindings generalizing p with
  | nil => rfl
  | cons binding rest ih => exact ih _

theorem hasFields_of_ofText {document : String} (h : ofText document = .ok p) :
    ∃ fields, Json.HasFields (Utf8.encode document) fields ∧ p.fields = Table.ofList fields := by
  obtain ⟨rest, hread, hrest⟩ := Json.exists_of_readDocument h
  obtain ⟨table, htable, rfl⟩ := Json.exists_of_map_eq_ok hread
  obtain ⟨inner, tail, fields, hdepth, hspace, rfl, hfields⟩ := Json.expectTable_eq_ok htable
  exact ⟨fields, ⟨inner, tail, rest, hdepth, hspace, hfields, hrest⟩, rfl⟩

theorem find?_bindAll_of_ofList {fields calls : List (String × Json)}
    (h : p.fields = Table.ofList fields) :
    (p.bindAll calls).fields.find? key = lastBound key (fields ++ calls) := by
  rw [fields_bindAll, Table.find?_foldl_insert, h, Table.find?_ofList, lastBound,
    List.reverse_append, List.lookup_append]

/-- **Parameters are what was bound last.** Whatever document a table has been read from and whatever
keys have been bound since, its answers about a key are those for the last value of that key: none
for a key that is absent, a value that the getter accepts as it is, the getter's own error for every
other value, and a default only for a key that is absent. -/
theorem extraction_by_last_binding {document : String} {start : Params}
    (hstart : ofText document = .ok start) :
    ∃ fields, Json.HasFields (Utf8.encode document) fields ∧
      ∀ calls key, Extracts (start.bindAll calls) key (lastBound key (fields ++ calls)) := by
  obtain ⟨fields, hdocument, hfields⟩ := hasFields_of_ofText hstart
  refine ⟨fields, hdocument, ?_⟩
  intro calls key
  rw [← find?_bindAll_of_ofList hfields]
  exact extracts _ key

/-- A key that stands in a document twice and is bound to the least integer that is no port, and a
key that is absent. -/
theorem extraction_by_last_binding_port :
    let start : Params := ⟨[("port", .ofInt 7)]⟩
    let p := start.bindAll [("host", .string "desk"), ("port", .ofInt 65536)]
    ofText "\x7b\"port\": \"a\", \"port\": 7\x7d" = .ok start ∧
      (∃ reason, p.getPort "port" = .error (.invalid "port" reason)) ∧
      p.getPortD "port" 9 = p.getPort "port" ∧
      p.getPortD "bind_port" 9 = .ok 9 := by
  intro start p
  have hstart : ofText "\x7b\"port\": \"a\", \"port\": 7\x7d" = .ok start := by cbv
  obtain ⟨fields, -, hextracts⟩ := extraction_by_last_binding hstart
  have hport := hextracts [("host", .string "desk"), ("port", .ofInt 65536)] "port"
  have hother := hextracts [("host", .string "desk"), ("port", .ofInt 65536)] "bind_port"
  have hlast : lastBound "port" (fields ++ [("host", .string "desk"), ("port", .ofInt 65536)]) =
      some (.ofInt 65536) := by
    simp [lastBound]
  have habsent : lastBound "bind_port"
      (fields ++ [("host", .string "desk"), ("port", .ofInt 65536)]) = none :=
    (hother.absent .port).1 rfl
  refine ⟨hstart, (hport.portInvalid 65536 hlast).2 (by decide), ?_, ?_⟩
  · rw [hport.default .port, hlast]
    rfl
  · rw [hother.default .port, habsent]
    rfl

end Params

end Switchboard
