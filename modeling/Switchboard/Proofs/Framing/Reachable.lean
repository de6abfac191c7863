import Switchboard.Framing.Method
import Switchboard.Proofs.Framing.SeparatorDecoding
import Switchboard.Proofs.Framing.SlipDecoding

/-!
# What framers come to

A framer with decode state starts with nothing pending and is then decoded with and cleared in any
order; sending a message through it leaves it as it is. Whatever the calls were, its separator and
its limit are those it was built with, and what it holds is within them.
-/

namespace Switchboard.Framer

variable {start f : Framer}

/-- A framer with decode state, as it is built. -/
inductive Fresh : Framer → Prop where
  | separator (s : Separator) (limit : Nat) : Fresh (.separator { separator := s, limit := limit })
  | slip (limit : Nat) : Fresh (.slip { limit := limit })

/-- Calls take the framer `start` to the given one. -/
inductive Reaches (start : Framer) : Framer → Prop where
  | start : Reaches start start
  | decode {f : Framer} (chunk : Bytes) (h : Reaches start f) : Reaches start (f.decode chunk).2
  | clear {f : Framer} (h : Reaches start f) : Reaches start f.clear

/-- What holds of a framer with decode state between two calls. -/
def Sound : Framer → Prop
  | .raw => False
  | .separator f => f.Sound
  | .slip f => f.pending.size ≤ f.limit

/-- The bytes of the unfinished message. -/
def pending : Framer → Bytes
  | .raw => []
  | .separator f => f.pending
  | .slip f => f.pending.toList

/-- Every framing by name but the raw one has decode state. -/
theorem fresh_build (method : FramingMethod) (limit : Nat) (h : method ≠ .raw) :
    (method.build limit).Fresh := by
  cases method with
  | raw => exact absurd rfl h
  | cr => exact .separator .cr limit
  | lf => exact .separator .lf limit
  | crlf => exact .separator .crlf limit
  | slip => exact .slip limit

theorem Fresh.sound (h : start.Fresh) : start.Sound := by
  cases h with
  | separator s limit => exact SeparatorFramer.sound_clear { separator := s, limit := limit }
  | slip limit => exact Nat.zero_le limit

theorem Fresh.clear_eq (h : start.Fresh) : start.clear = start := by
  cases h <;> rfl

theorem Sound.decode (h : f.Sound) (chunk : Bytes) : (f.decode chunk).2.Sound := by
  cases f with
  | raw => exact h
  | separator f => exact SeparatorFramer.Sound.decode h chunk
  | slip f => exact SlipFramer.decode_size_le h chunk

theorem Sound.clear (h : f.Sound) : f.clear.Sound := by
  cases f with
  | raw => exact h
  | separator f => exact f.sound_clear
  | slip f => exact Nat.zero_le f.limit

/-- Whatever the calls were, the framer holds what it may hold. -/
theorem Reaches.sound (h : start.Reaches f) (hstart : start.Fresh) : f.Sound := by
  induction h with
  | start => exact hstart.sound
  | decode chunk _ ih => exact ih.decode chunk
  | clear _ ih => exact ih.clear

theorem clear_decode (f : Framer) (chunk : Bytes) : (f.decode chunk).2.clear = f.clear := by
  cases f with
  | raw => rfl
  | separator f => exact congrArg Framer.separator (f.clear_decode chunk)
  | slip f => exact congrArg Framer.slip (f.clear_decode chunk)

theorem clear_clear (f : Framer) : f.clear.clear = f.clear := by
  cases f <;> rfl

/-- Whatever the calls were, the framer is cleared to what it was built as. -/
theorem Reaches.clear_eq (h : start.Reaches f) (hstart : start.Fresh) : f.clear = start := by
  induction h with
  | start => exact hstart.clear_eq
  | decode chunk _ ih => rw [clear_decode, ih]
  | clear _ ih => rw [clear_clear, ih]

end Switchboard.Framer

namespace Switchboard.SeparatorFramer

variable {s : Separator} {limit : Nat} {f : SeparatorFramer}

/-- What a reachable framer with a separator is: its separator and limit, and what it holds. -/
theorem of_reaches (h : Framer.Reaches (.separator { separator := s, limit := limit })
    (.separator f)) : f.separator = s ∧ f.limit = limit ∧ f.Sound := by
  have hclear := h.clear_eq (.separator s limit)
  injection hclear with hclear
  injection hclear with hseparator hlimit
  exact ⟨hseparator, hlimit, h.sound (.separator s limit)⟩

/-- With nothing pending it is as it was built. -/
theorem eq_of_reaches_of_pending_eq_nil
    (h : Framer.Reaches (.separator { separator := s, limit := limit }) (.separator f))
    (hpending : f.pending = []) : f = { separator := s, limit := limit } := by
  obtain ⟨rfl, rfl, hsound⟩ := of_reaches h
  have hscanned := hsound.scanned_eq
  rw [hpending, List.length_nil, Nat.zero_sub] at hscanned
  obtain ⟨separator, limit, pending, scanned⟩ := f
  cases hpending
  cases hscanned
  rfl

end Switchboard.SeparatorFramer
