import Switchboard.Proofs.Framing.Fragmentation
import Switchboard.Proofs.Framing.SlipReading

/-!
# Stuffed messages after a torn one

Whatever a decoder has been fed, the delimiter that opens the next message closes what was torn,
unless an ESC waits and takes the delimiter for its partner: then the torn message goes on with the
next one. The message after that comes out whole in any case.
-/

namespace Switchboard

namespace SlipFramer

open Slip

variable {f : SlipFramer} {m₁ m₂ : Bytes}

/-- What is finished when a message has followed what was torn. -/
def interrupted (f : SlipFramer) (m : Bytes) : List Bytes :=
  if f.escaped then [f.pending.toList ++ m] else [f.pending.toList, m]

/-- Two messages finish what was torn, an empty segment between them and the second of them. -/
theorem decode_encode_encode (hf : f.pending.size ≤ f.limit) (m₁ m₂ : Bytes) :
    f.decode (encode m₁ ++ encode m₂) =
      answer f.limit (f.interrupted m₁ ++ [[], m₂, []]) false := by
  obtain ⟨limit, held, escaped⟩ := f
  cases escaped with
  | false =>
    rw [decode_eq_answer held hf, endsTorn_encode_append, endsTorn_encode, segments_encode_append,
      segments_encode, List.modifyHead_cons, List.append_nil]
    rfl
  | true =>
    rw [decode_escaped held hf, decode_eq_answer held hf, endsTorn_esc_encode_append,
      endsTorn_encode, segments_esc_encode_append, segments_encode, List.modifyHead_cons]
    rfl

/-- A reachable decoder has the limit that it was built with and holds no more than that. -/
theorem of_reaches {limit : Nat}
    (h : Framer.Reaches (.slip { limit := limit }) (.slip f)) :
    f.limit = limit ∧ f.pending.size ≤ f.limit := by
  have hclear := h.clear_eq (.slip limit)
  injection hclear with hclear
  injection hclear with hlimit
  exact ⟨hlimit, h.sound (.slip limit)⟩

end SlipFramer

namespace Framer

variable {limit : Nat} {f : SlipFramer} {g : Framer} {m₁ m₂ : Bytes} {messages chunks : List Bytes}

/-- **A torn message damages at most the next one.** From any state that calls lead to, two
messages that follow one another, cut into chunks anywhere, are taken without a failure exactly
when what they finish is within the limit. The decoder is then as it was built, and the messages
are those that were finished but for the empty ones: what was torn and the first message, or both
as one message if an ESC was waiting, and then the second message. -/
theorem slip_feed_resynchronises (hf : Reaches (.slip { limit := limit }) (.slip f))
    (hm₂ : m₂ ≠ [])
    (hcut : chunks.flatten = (Framer.slip f).encode m₁ ++ (Framer.slip f).encode m₂) :
    (∃ lists : List (List Bytes),
      (Framer.slip f).feed chunks = (lists.map .ok, g) ∧ lists.flatten = messages) ↔
    (∀ s ∈ f.interrupted m₁, s.length ≤ limit) ∧ m₂.length ≤ limit ∧
      messages = (f.interrupted m₁).filter (· ≠ []) ++ [m₂] ∧ g = .slip { limit := limit } := by
  obtain ⟨rfl, hheld⟩ := SlipFramer.of_reaches hf
  have hdecode : f.decode chunks.flatten =
      SlipFramer.answer f.limit ((f.interrupted m₁ ++ [[], m₂]) ++ [[]]) false := by
    rw [hcut, List.append_assoc]
    exact SlipFramer.decode_encode_encode hheld m₁ m₂
  have hfits : (∀ s ∈ f.interrupted m₁ ++ [[], m₂], s.length ≤ f.limit) ↔
      (∀ s ∈ f.interrupted m₁, s.length ≤ f.limit) ∧ m₂.length ≤ f.limit := by
    simp [or_imp, forall_and]
  have hmessages : (f.interrupted m₁ ++ [[], m₂]).filter (· ≠ []) =
      (f.interrupted m₁).filter (· ≠ []) ++ [m₂] := by
    simp [hm₂]
  have hsound : (Framer.slip f).Sound := hheld
  rw [hsound.feed_eq_ok_iff, ← and_assoc, ← hfits, ← hmessages]
  constructor
  · intro hwhole
    obtain ⟨d, hd, rfl⟩ := map_eq_ok_iff.1 hwhole
    obtain ⟨hall, rfl, rfl⟩ := SlipFramer.answer_finished_eq_ok_iff.1 (hdecode.symm.trans hd)
    exact ⟨hall, rfl, rfl⟩
  · rintro ⟨hall, rfl, rfl⟩
    have hanswer := SlipFramer.answer_finished_eq_ok_iff.2 ⟨hall, rfl, rfl⟩
    exact map_eq_ok_iff.2 ⟨{ limit := f.limit }, hdecode.trans hanswer, rfl⟩

/-- A message torn right after an ESC, which takes the next opening delimiter for its partner. -/
theorem slip_feed_resynchronises_after_esc :
    let start := Framer.slip { limit := 3 }
    let f : SlipFramer := ⟨3, #[0x61], true⟩
    let chunks : List Bytes := [[0xC0, 0xDB], [0xDC, 0xC0, 0xC0], [], [0x62, 0xC0]]
    start.Reaches (.slip f) ∧ ([0x62] : Bytes) ≠ [] ∧
      chunks.flatten = (Framer.slip f).encode [0xC0] ++ (Framer.slip f).encode [0x62] ∧
      ∃ lists : List (List Bytes), (Framer.slip f).feed chunks = (lists.map .ok, start) ∧
        lists.flatten = [[0x61, 0xC0], [0x62]] := by
  intro start f chunks
  have hf : start.Reaches (.slip f) := .decode [0xC0, 0x61, 0xDB] .start
  have hm : ([0x62] : Bytes) ≠ [] := by decide
  have hcut : chunks.flatten = (Framer.slip f).encode [0xC0] ++ (Framer.slip f).encode [0x62] := by
    decide
  exact ⟨hf, hm, hcut, (slip_feed_resynchronises hf hm hcut).2 ⟨by decide, by decide, rfl, rfl⟩⟩

end Framer

end Switchboard
