import Switchboard.Processor.Text
import Switchboard.Proofs.Text.WellFormed
import Switchboard.Route.Basic

/-!
# Converting between bytes and texts

Encoding a text and decoding it gives the text. Bytes are decoded exactly when they are well-formed
UTF-8; then encoding leads back to them, and they show as the same text. Other bytes are refused with
the length of their longest well-formed prefix, and they show as the text of that prefix, U+FFFD and
what follows.
-/

namespace Switchboard.Processor

open Utf8 (WellFormed)

variable {b : Bytes} {s t : String}

/-- What a refusal says of the bytes at the index. -/
def faultOf (size : Option Nat) : String :=
  match size with
  | some size => "invalid utf-8 sequence of " ++ toString size ++ " bytes"
  | none => "incomplete utf-8 byte sequence"

theorem message_of_size (index size : Nat) : (⟨index, some size⟩ : Utf8.Malformed).message =
    "invalid utf-8 sequence of " ++ toString size ++ " bytes" ++ " from index " ++
      toString index := by
  have hmessage : (⟨index, some size⟩ : Utf8.Malformed).message =
    "invalid utf-8 sequence of " ++ toString size ++ " bytes from index " ++ toString index := rfl
  have hwords : " bytes from index " = " bytes" ++ " from index " := by decide
  rw [hmessage, hwords, ← String.append_assoc]

theorem message_eq (malformed : Utf8.Malformed) :
    malformed.message = faultOf malformed.size ++ " from index " ++ toString malformed.index := by
  rcases malformed with ⟨index, size⟩
  cases size with
  | none => rfl
  | some size => exact message_of_size index size

/-- What conversion makes of bytes and the text that they are. -/
structure Converts (b : Bytes) (t : String) : Prop where
  decodes : stringDecode.process (.bytes b) = (.passed (.text t), [])
  encodes : stringEncode.process (.text t) = (.passed (.bytes b), [])
  shows : (Payload.bytes b).display = t

/-- What conversion makes of bytes that are no text: they are refused at an index, with a stretch of
`size` bytes or at their end. No longer prefix than the one up to the index is well-formed. Decoding
fails and names the index. The bytes show as the text of that prefix, U+FFFD and what follows the
stretch. -/
structure Refuses (b : Bytes) (index : Nat) (size : Option Nat) : Prop where
  greatest : IsGreatest {n | n ≤ b.length ∧ WellFormed (b.take n)} index
  refused : stringDecode.process (.bytes b) =
    (.failed (.invalidInput
      ("invalid UTF-8: " ++ faultOf size ++ " from index " ++ toString index)), [])
  shows : ∃ t, b.take index = Utf8.encode t ∧ (Payload.bytes b).display =
    t ++ "\uFFFD" ++ (Payload.bytes (Utf8.skipStuck size (b.drop index))).display

theorem decodeText_of_decode_eq_ok (h : Utf8.decode b = .ok t) :
    decodeText (.bytes b) = .passed (.text t) := by
  simp only [decodeText, h]

theorem decodeText_of_decode_eq_error {malformed : Utf8.Malformed}
    (h : Utf8.decode b = .error malformed) : decodeText (.bytes b) =
      .failed (.invalidInput ("invalid UTF-8: " ++ malformed.message)) := by
  simp only [decodeText, h]

theorem converts_encode (t : String) : Converts (Utf8.encode t) t where
  decodes := by
    show (decodeText (.bytes (Utf8.encode t)), []) = _
    rw [decodeText_of_decode_eq_ok (Utf8.decode_eq_ok_iff.2 rfl)]
  encodes := rfl
  shows := Utf8.decodeLossy_encode t

theorem exists_malformed (h : ¬ WellFormed b) : ∃ malformed, Utf8.decode b = .error malformed := by
  cases hdecode : Utf8.decode b with
  | ok t => exact absurd (Utf8.wellFormed_iff.2 ⟨t, Utf8.decode_eq_ok_iff.1 hdecode⟩) h
  | error malformed => exact ⟨malformed, rfl⟩

theorem refuses_of_decode_eq_error {malformed : Utf8.Malformed}
    (h : Utf8.decode b = .error malformed) : Refuses b malformed.index malformed.size := by
  have hchars : Utf8.decodeFrom 0 [] b = .error malformed := by
    unfold Utf8.decode Utf8.decodeChars at h
    cases hfrom : Utf8.decodeFrom 0 [] b with
    | ok cs =>
      rw [hfrom] at h
      nomatch h
    | error other =>
      rw [hfrom] at h
      obtain rfl := Except.error.inj (h : Except.error other = _)
      rfl
  obtain ⟨cs, tail, after, rfl, hindex, hstuck⟩ := Utf8.exists_stuck_of_decodeFrom hchars
  rw [Nat.zero_add] at hindex
  refine ⟨?_, ?_, String.ofList cs, ?_, ?_⟩
  · rw [hindex]
    exact hstuck.isGreatest cs
  · show (decodeText (.bytes _), []) = _
    rw [decodeText_of_decode_eq_error h, message_eq]
    simp only [String.append_assoc]
  · rw [hindex, List.take_left, Utf8.encode, String.toList_ofList]
  · rw [hindex, List.drop_left]
    exact Utf8.decodeLossy_of_stuck hstuck cs

/-- **Conversion is exact.** A text that is encoded and decoded comes back. Bytes are decoded exactly
when they are well-formed UTF-8, and then to the text that encodes to them and that they show as; other
bytes are refused with the length of their longest well-formed prefix, up to which they show as text. -/
theorem conversion_exact :
    (∀ s : String,
      Route.runProcessors [stringEncode, stringDecode] (.text s) = (.passed (.text s), [])) ∧
    ∀ b : Bytes,
      ((∃ t, stringDecode.process (.bytes b) = (.passed (.text t), [])) ↔ WellFormed b) ∧
      (∀ t, stringDecode.process (.bytes b) = (.passed (.text t), []) ↔ Converts b t) ∧
      (¬ WellFormed b ↔ ∃ index size, Refuses b index size) := by
  have hdecodes : ∀ b t, stringDecode.process (.bytes b) = (.passed (.text t), []) →
      b = Utf8.encode t := by
    intro b t h
    have hpassed : decodeText (.bytes b) = .passed (.text t) := (Prod.mk.inj h).1
    cases hdecode : Utf8.decode b with
    | ok s =>
      rw [decodeText_of_decode_eq_ok hdecode] at hpassed
      obtain rfl := Payload.text.inj (Processed.passed.inj hpassed)
      exact Utf8.decode_eq_ok_iff.1 hdecode
    | error malformed =>
      rw [decodeText_of_decode_eq_error hdecode] at hpassed
      nomatch hpassed
  refine ⟨?_, fun b => ⟨?_, ?_, ?_⟩⟩
  · intro s
    have hencoded := (converts_encode s).encodes
    have hdecoded := (converts_encode s).decodes
    simp only [Route.runProcessors, hencoded, hdecoded, List.append_nil]
  · constructor
    · rintro ⟨t, h⟩
      exact Utf8.wellFormed_iff.2 ⟨t, hdecodes b t h⟩
    · intro h
      obtain ⟨t, rfl⟩ := Utf8.wellFormed_iff.1 h
      exact ⟨t, (converts_encode t).decodes⟩
  · intro t
    constructor
    · intro h
      obtain rfl := hdecodes b t h
      exact converts_encode t
    · intro h
      exact h.decodes
  · constructor
    · intro h
      obtain ⟨malformed, hmalformed⟩ := exists_malformed h
      exact ⟨_, _, refuses_of_decode_eq_error hmalformed⟩
    · rintro ⟨index, size, hrefuses⟩ h
      obtain ⟨t, rfl⟩ := Utf8.wellFormed_iff.1 h
      nomatch hrefuses.refused.symm.trans (converts_encode t).decodes

end Switchboard.Processor
