import Mathlib
import Switchboard.Processor.Document
import Switchboard.Proofs.Json.Numerals
import Switchboard.Proofs.Json.Values
import Switchboard.Route.Basic

/-!
# Documents on their way

What has been written for a payload is read back as its value, as a text and as bytes. On documents
without other numbers than integers of 64 bits, reading and writing again comes to a normal form.
-/

namespace Switchboard.Processor

open Json (IntegersOnly WellFormed)
open Route (runProcessors)

/-- The value of a payload comes back from the text that is written for it, and from the bytes of
that text. -/
def ComesBack (p : Payload) (v : Json) : Prop :=
  runProcessors [jsonEncode, jsonDecode] p = (.passed (.json v), []) ∧
    runProcessors [jsonEncode, stringEncode, jsonDecode] p = (.passed (.json v), [])

theorem readJson_text {v : Json} (h : WellFormed JsonNumber.Exact v) (hdepth : v.depth ≤ 127) :
    readJson (Utf8.encode v.text) = .passed (.json v) := by
  have hread : Json.read (Utf8.encode v.text) = .ok v := by
    rw [Json.text, Utf8.encode, String.toList_ofList]
    exact Json.read_write h hdepth
  rw [readJson, hread]

/-- A payload that is written as a value comes back as that value. -/
theorem comesBack_of_encodeJson {p : Payload} {v : Json} (hencode : encodeJson p = .passed (.text v.text))
    (h : WellFormed JsonNumber.Exact v) (hdepth : v.depth ≤ 127) : ComesBack p v := by
  have hread := readJson_text h hdepth
  constructor
  · simp [runProcessors, jsonEncode, jsonDecode, quiet, hencode, decodeJson, hread]
  · simp [runProcessors, jsonEncode, jsonDecode, stringEncode, quiet, hencode, encodeText,
      decodeJson, hread]

theorem isLong_toInt (i : Int64) : JsonNumber.IsLong i.toInt := by
  have hlow := i.le_toInt
  have hhigh := i.toInt_lt
  exact ⟨by omega, by omega⟩

theorem run_jsonDecode {p : Payload} {v : Json} (h : decodeJson p = .passed (.json v)) :
    runProcessors [jsonDecode] p = (.passed (.json v), []) := by
  simp [runProcessors, jsonDecode, quiet, h]

theorem run_jsonDecode_jsonEncode {p : Payload} {v : Json} (h : decodeJson p = .passed (.json v)) :
    runProcessors [jsonDecode, jsonEncode] p = (.passed (.text v.text), []) := by
  simp [runProcessors, jsonDecode, jsonEncode, quiet, h, encodeJson]

/-- The bytes of a document that is read are those of the payload. -/
theorem read_of_decodeJson {p : Payload} {document : Bytes} {v : Json}
    (hbytes : p.intoBytes = .ok document) (h : decodeJson p = .passed (.json v)) :
    Json.read document = .ok v := by
  have hread : readJson document = .passed (.json v) := by
    cases p <;> simp [Payload.intoBytes] at hbytes <;> subst hbytes <;> exact h
  rw [readJson] at hread
  split at hread
  · next w hw =>
    injection hread with hpayload
    injection hpayload with hvalue
    rw [hw, hvalue]
  · cases hread

/-- A document comes to a normal form: a text with the same value from which reading and writing
does not lead away. -/
def Normalises (p : Payload) (v : Json) : Prop :=
  ∃ t, runProcessors [jsonDecode, jsonEncode] p = (.passed (.text t), []) ∧
    ∀ q ∈ [Payload.text t, .bytes (Utf8.encode t)],
      runProcessors [jsonDecode] q = (.passed (.json v), []) ∧
        runProcessors [jsonDecode, jsonEncode] q = (.passed (.text t), [])

theorem normalises_of_wellFormed {p : Payload} {v : Json} (h : decodeJson p = .passed (.json v))
    (hv : WellFormed JsonNumber.Exact v) (hdepth : v.depth ≤ 127) : Normalises p v := by
  refine ⟨v.text, run_jsonDecode_jsonEncode h, fun q hq => ?_⟩
  have hdecode : decodeJson q = .passed (.json v) := by
    rcases List.mem_pair.1 hq with rfl | rfl
    · exact readJson_text hv hdepth
    · exact readJson_text hv hdepth
  exact ⟨run_jsonDecode hdecode, run_jsonDecode_jsonEncode hdecode⟩

/-- **Reading a document undoes writing it**: for values whose numbers are integers of 64 bits and
which are not too deep, for texts, integers and truth values. Every document that is read and whose
numbers are spelled as integers of 64 bits therefore has a normal form. -/
theorem jsonDecode_undoes_jsonEncode :
    (∀ v : Json, WellFormed JsonNumber.Exact v → v.depth ≤ 127 → ComesBack (.json v) v) ∧
    (∀ s : String, ComesBack (.text s) (.string s)) ∧
    (∀ i : Int64, ComesBack (.int i) (.number (.integer i.toInt))) ∧
    (∀ b : Bool, ComesBack (.bool b) (.bool b)) ∧
    ∀ (p : Payload) (document : Bytes) (v : Json),
      p.intoBytes = .ok document → IntegersOnly document →
      (runProcessors [jsonDecode] p).1 = .passed (.json v) → Normalises p v := by
  refine ⟨fun v h hdepth => comesBack_of_encodeJson rfl h hdepth, fun s => ?_, fun i => ?_,
    fun b => ?_, fun p document v hbytes hintegers hrun => ?_⟩
  · exact comesBack_of_encodeJson rfl (.string s) (Nat.zero_le _)
  · exact comesBack_of_encodeJson rfl (.number (isLong_toInt i)) (Nat.zero_le _)
  · exact comesBack_of_encodeJson rfl (.bool b) (Nat.zero_le _)
  · have hdecode : decodeJson p = .passed (.json v) := by
      simp only [runProcessors, jsonDecode, quiet] at hrun
      cases hp : decodeJson p <;> simp_all
    obtain ⟨hv, hdepth⟩ := Json.wellFormed_of_integersOnly hintegers
      (read_of_decodeJson hbytes hdecode)
    exact normalises_of_wellFormed hdecode hv hdepth

/-- The bounds of the integers, an escape in a key and a fraction inside a string. -/
theorem jsonDecode_undoes_jsonEncode_at_bounds :
    ComesBack
        (.json (.object [("\"\\\n",
          .array [.number (.integer (-0x8000000000000000)), .number (.integer 0xFFFFFFFFFFFFFFFF)])]))
        (.object [("\"\\\n",
          .array [.number (.integer (-0x8000000000000000)), .number (.integer 0xFFFFFFFFFFFFFFFF)])]) ∧
      ComesBack (.text "é\u0001\"") (.string "é\u0001\"") ∧
      ComesBack (.int (-9223372036854775808)) (.number (.integer (-9223372036854775808))) ∧
      ComesBack (.bool true) (.bool true) ∧
      Normalises (.text " \x7b\"b\" : [18446744073709551615, -1], \"a\":\"1.5\\u0041\"\x7d ")
        (.object [("a", .string "1.5A"),
          ("b", .array [.number (.integer 18446744073709551615), .number (.integer (-1))])]) := by
  obtain ⟨hvalues, htexts, hintegers, hbools, hdocuments⟩ := jsonDecode_undoes_jsonEncode
  refine ⟨hvalues _ ?_ ?_, htexts _, hintegers (-9223372036854775808), hbools true,
    hdocuments _ _ _ rfl ?_ ?_⟩
  · have hlow : JsonNumber.IsLong (-0x8000000000000000) := by decide
    have hhigh : JsonNumber.IsLong 0xFFFFFFFFFFFFFFFF := by decide
    refine .object (List.pairwise_singleton _ _) fun field hfield => ?_
    obtain rfl := List.mem_singleton.1 hfield
    refine .array fun item hitem => ?_
    rcases List.mem_pair.1 hitem with rfl | rfl
    · exact .number hlow
    · exact .number hhigh
  · decide
  · intro spelling hspelling
    have hnumerals : Json.numerals
        (Utf8.encode " \x7b\"b\" : [18446744073709551615, -1], \"a\":\"1.5\\u0041\"\x7d ") =
        [Utf8.encode "18446744073709551615", Utf8.encode "-1"] := by cbv
    rw [hnumerals] at hspelling
    rcases List.mem_pair.1 hspelling with rfl | rfl
    · exact ⟨List.all_eq_true.1 rfl, by decide⟩
    · exact ⟨List.all_eq_true.1 rfl, by decide, by decide⟩
  · cbv

end Switchboard.Processor
