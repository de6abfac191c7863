import Switchboard.Proofs.Framing.Fragmentation

/-!
# Sending and receiving

Messages that are sent one after the other, cut into chunks anywhere and decoded. Stuffing brings
back every message within the limit that has any bytes. A separator brings back the messages in
which, with the separator after them, it begins nowhere before their end.
-/

namespace Switchboard.Framer

variable {f : Framer} {s : Separator} {limit : Nat} {messages chunks : List Bytes}

/-- **Stuffed messages come back.** Whatever bytes they are of and however they are cut, messages
within the limit are answered but for the empty ones, no call fails, and nothing is left over. -/
theorem slip_feed_encode (hfits : ∀ m ∈ messages, m.length ≤ limit)
    (hcut : chunks.flatten = messages.flatMap (Framer.slip { limit := limit }).encode) :
    ∃ lists : List (List Bytes),
      (Framer.slip { limit := limit }).feed chunks = (lists.map .ok, .slip { limit := limit }) ∧
        lists.flatten = messages.filter (· ≠ []) := by
  have hsound := (Fresh.slip limit).sound
  rw [hsound.feed_eq_ok_iff, hcut]
  exact map_eq_ok_iff.2 ⟨_, SlipFramer.decode_flatMap_encode hfits, rfl⟩

/-- Messages of delimiters and escapes with an empty one between them, cut inside the pairs. -/
theorem slip_feed_encode_pairs :
    let start := Framer.slip { limit := 3 }
    let messages : List Bytes := [[0xC0, 0xDB, 0xDC], [], [0xDD]]
    let chunks : List Bytes :=
      [[0xC0, 0xDB], [0xDC, 0xDB], [], [0xDD, 0xDC, 0xC0, 0xC0], [0xC0, 0xC0, 0xDD, 0xC0]]
    (∀ m ∈ messages, m.length ≤ 3) ∧ chunks.flatten = messages.flatMap start.encode ∧
      ∃ lists : List (List Bytes), start.feed chunks = (lists.map .ok, start) ∧
        lists.flatten = [[0xC0, 0xDB, 0xDC], [0xDD]] := by
  intro start messages chunks
  have hfits : ∀ m ∈ messages, m.length ≤ 3 := by decide
  have hcut : chunks.flatten = messages.flatMap start.encode := by decide
  exact ⟨hfits, hcut, slip_feed_encode hfits hcut⟩

/-- Fed `chunks`, the framer fails at none of them, answers `messages` in a row and has nothing
pending in the end. -/
def Delivers (f : Framer) (chunks messages : List Bytes) : Prop :=
  ∃ lists : List (List Bytes),
    (f.feed chunks).1 = lists.map .ok ∧ lists.flatten = messages ∧ (f.feed chunks).2.pending = []

theorem Sound.delivers_iff (h : f.Sound) :
    f.Delivers chunks messages ↔
      ∃ last, f.decode chunks.flatten = (.ok messages, last) ∧ last.pending = [] := by
  constructor
  · rintro ⟨lists, hlists, hmessages, hpending⟩
    exact ⟨_, h.feed_eq_ok_iff.1 ⟨lists, Prod.ext hlists rfl, hmessages⟩, hpending⟩
  · rintro ⟨last, hdecode, hpending⟩
    obtain ⟨lists, hfeed, hmessages⟩ := h.feed_eq_ok_iff.2 hdecode
    rw [Delivers, hfeed]
    exact ⟨lists, rfl, hmessages, hpending⟩

/-- A framer with a separator that has nothing pending delivers the messages of a split without a
tail, if they are within the limit. -/
theorem separator_delivers_iff_splits :
    (Framer.separator { separator := s, limit := limit }).Delivers chunks messages ↔
      s.Splits chunks.flatten messages [] ∧ ∀ m ∈ messages, m.length ≤ limit := by
  have hsound : SeparatorFramer.Sound { separator := s, limit := limit } :=
    (Fresh.separator s limit).sound
  rw [(Fresh.separator s limit).sound.delivers_iff]
  constructor
  · rintro ⟨last, hdecode, hpending⟩
    obtain ⟨d, hdecode', rfl⟩ := map_eq_ok_iff.1 hdecode
    obtain ⟨tail, hs, hfits, rfl⟩ := hsound.decode_eq_ok_iff.1 hdecode'
    cases (show tail = [] from hpending)
    exact ⟨hs, hfits.1⟩
  · rintro ⟨hs, hmessages⟩
    exact ⟨_, map_eq_ok_iff.2 ⟨_, hsound.decode_of_fits hs ⟨hmessages, Nat.zero_le _⟩, rfl⟩, rfl⟩

/-- **Which messages a separator brings back.** With nothing pending, a framer delivers what is
sent, however it is cut, exactly when every message is within the limit and the separator first
occurs in the message and the separator after it where the message ends. Unless the separator is
a byte twice, these are the messages without the separator inside; if it is, a message that ends
in this byte is not one of them. -/
theorem separator_delivers_encode_iff {f : SeparatorFramer}
    (hf : Framer.Reaches (.separator { separator := s, limit := limit }) (.separator f))
    (hpending : f.pending = [])
    (hcut : chunks.flatten = messages.flatMap (Framer.separator f).encode) :
    ((Framer.separator f).Delivers chunks messages ↔
      ∀ m ∈ messages, m.length ≤ limit ∧ s.FirstAt (m ++ s.bytes) m.length) ∧
    ((∀ b, s.bytes ≠ [b, b]) → (∀ m ∈ messages, m.length ≤ limit ∧ ¬ s.bytes <:+: m) →
      (Framer.separator f).Delivers chunks messages) ∧
    (∀ b, s.bytes = [b, b] → (∃ m ∈ messages, m.getLast? = some b) →
      ¬ (Framer.separator f).Delivers chunks messages) := by
  cases SeparatorFramer.eq_of_reaches_of_pending_eq_nil hf hpending
  have hdelivers : (Framer.separator { separator := s, limit := limit }).Delivers chunks messages ↔
      ∀ m ∈ messages, m.length ≤ limit ∧ s.FirstAt (m ++ s.bytes) m.length := by
    rw [separator_delivers_iff_splits, hcut, and_comm]
    simp only [imp_and, forall_and]
    exact and_congr_right fun _ => Separator.splits_flatMap_iff
  refine ⟨hdelivers, ?_, ?_⟩
  · intro hs hmessages
    rw [hdelivers]
    intro m hm
    obtain ⟨hlen, hnone⟩ := hmessages m hm
    exact ⟨hlen, Separator.firstAt_append_self_of_not_infix hs hnone⟩
  · rintro b hs ⟨m, hm, hlast⟩ hall
    have hfirst := (hdelivers.1 hall m hm).2
    exact Separator.not_firstAt_append_self_of_getLast? hs hlast hfirst

/-- Messages that end in the first byte of the separator, cut inside the separators. -/
theorem separator_delivers_encode_crlf :
    let f : SeparatorFramer := { separator := .crlf, limit := 2 }
    let messages : List Bytes := [[0x61, 0x0D], [], [0x0D]]
    let chunks : List Bytes := [[0x61, 0x0D], [0x0D, 0x0A, 0x0D], [0x0A, 0x0D, 0x0D], [], [0x0A]]
    Framer.Reaches (.separator f) (.separator f) ∧ f.pending = [] ∧
      chunks.flatten = messages.flatMap (Framer.separator f).encode ∧
      (∀ b, f.separator.bytes ≠ [b, b]) ∧
      (∀ m ∈ messages, m.length ≤ 2 ∧ ¬ f.separator.bytes <:+: m) ∧
      (Framer.separator f).Delivers chunks messages := by
  intro f messages chunks
  have hf : Framer.Reaches (.separator f) (.separator f) := .start
  have hcut : chunks.flatten = messages.flatMap (Framer.separator f).encode := by decide
  have hpair : ∀ b, f.separator.bytes ≠ [b, b] := by
    intro b h
    have hcr : 0x0D = b := (List.cons.inj h).1
    have hlf : 0x0A = b := (List.cons.inj (List.cons.inj h).2).1
    exact absurd (hcr.trans hlf.symm) (by decide)
  have hmessages : ∀ m ∈ messages, m.length ≤ 2 ∧ ¬ f.separator.bytes <:+: m := by decide
  exact ⟨hf, rfl, hcut, hpair, hmessages,
    (separator_delivers_encode_iff hf rfl hcut).2.1 hpair hmessages⟩

end Switchboard.Framer
