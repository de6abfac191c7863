import Switchboard.Proofs.Framing.Reachable

/-!
# Decoding as a split

What a call of the decoder of messages that end with a separator answers, said without the offset
at which its search goes on: it is the split of all bytes that have not been answered yet, searched
from the first of them.
-/

namespace Switchboard.SeparatorFramer

/-- **Decoding is the leftmost split.** From any state that calls lead to, the held bytes and the
chunk have one split at the leftmost separators. If it is small enough, its messages are answered
and its tail is held; else a size past the limit is reported and the decoder is as it was built.
No slice that the call takes reaches past its bytes. -/
theorem decode_eq_leftmost_split {s : Separator} {limit : Nat} {f : SeparatorFramer}
    (hf : Framer.Reaches (.separator { separator := s, limit := limit }) (.separator f))
    (chunk : Bytes) :
    ∃ messages tail,
      f.pending ++ chunk = messages.flatMap (· ++ s.bytes) ++ tail ∧
      (∀ messages' tail', s.Splits (f.pending ++ chunk) messages' tail' ↔
        messages' = messages ∧ tail' = tail) ∧
      (s.Fits limit messages tail →
        f.decode chunk = (.ok messages,
          { separator := s, limit := limit, pending := tail,
            scanned := tail.length - (s.bytes.length - 1) })) ∧
      (¬ s.Fits limit messages tail → ∃ size, limit < size ∧
        f.decode chunk = (.error (.messageTooLarge size limit),
          { separator := s, limit := limit })) ∧
      s.InBounds limit f.scanned (f.pending ++ chunk) := by
  obtain ⟨rfl, rfl, hsound⟩ := of_reaches hf
  obtain ⟨messages, tail, hs⟩ := f.separator.exists_splits (f.pending ++ chunk)
  refine ⟨messages, tail, hs.eq_append, ?_, hsound.decode_of_fits hs,
    hsound.decode_of_not_fits hs, hs.inBounds (hsound.noneBefore chunk) ?_⟩
  · intro messages' tail'
    constructor
    · exact hs.unique
    · rintro ⟨rfl, rfl⟩
      exact hs
  · have hle := hsound.scanned_le
    rw [List.length_append]
    omega

/-- A message of the greatest length whose separator ends in the next chunk. -/
theorem decode_crlf_cut :
    let start : SeparatorFramer := { separator := .crlf, limit := 3 }
    let f : SeparatorFramer := { start with pending := [0x61, 0x62, 0x63, 0x0D], scanned := 3 }
    Framer.Reaches (.separator start) (.separator f) ∧
      f.decode [0x0A, 0x78] = (.ok [[0x61, 0x62, 0x63]], { start with pending := [0x78] }) := by
  intro start f
  have hfirst : start.decode [0x61, 0x62, 0x63, 0x0D] = (.ok [], f) :=
    start.sound_clear.decode_of_fits (.tail (by decide)) (by decide)
  have hf : Framer.Reaches (.separator start)
      (.separator (start.decode [0x61, 0x62, 0x63, 0x0D]).2) := .decode _ .start
  rw [hfirst] at hf
  have hs : Separator.crlf.Splits (f.pending ++ [0x0A, 0x78]) [[0x61, 0x62, 0x63]] [0x78] :=
    .message (k := 3) (by decide) (.tail (by decide))
  obtain ⟨messages, tail, -, hunique, hfits, -⟩ := decode_eq_leftmost_split hf [0x0A, 0x78]
  obtain ⟨rfl, rfl⟩ := (hunique _ _).1 hs
  exact ⟨hf, hfits (by decide)⟩

end Switchboard.SeparatorFramer
