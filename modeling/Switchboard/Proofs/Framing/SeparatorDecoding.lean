import Switchboard.Proofs.Framing.LeftmostSplit

/-!
# Decoding messages that end with a separator

Between two calls the decoder holds bytes without a separator, and where its next search begins
depends on their number alone. From such a state a call answers the split of the held bytes and
the chunk, unless a message of it or its tail is too long, and then it starts afresh. What two
calls answer is therefore what one call on both chunks answers.
-/

namespace Switchboard

/-- The split is small enough. A tail may be longer than a message by all but one byte of the
separator, since these bytes may still turn out to belong to one. -/
def Separator.Fits (s : Separator) (limit : Nat) (messages : List Bytes) (tail : Bytes) : Prop :=
  (∀ m ∈ messages, m.length ≤ limit) ∧ tail.length ≤ limit + s.bytes.length - 1

instance {s : Separator} {limit : Nat} {messages : List Bytes} {tail : Bytes} :
    Decidable (s.Fits limit messages tail) := inferInstanceAs (Decidable (_ ∧ _))

namespace Separator

variable {s : Separator} {front back tail tail' : Bytes} {messages messages' : List Bytes}
variable {limit : Nat}

/-- A tail that is too long makes the split of whatever follows it too long. Its bytes end up in
the first message, but for those that a separator across the cut may take. -/
theorem Splits.tail_length_le (hback : s.Splits (tail ++ back) messages tail')
    (hnone : ¬ s.bytes <:+: tail) (hfits : s.Fits limit messages tail') :
    tail.length ≤ limit + s.bytes.length - 1 := by
  have hone := s.one_le
  generalize hall : tail ++ back = bytes at hback
  have hlen : tail.length ≤ bytes.length := by
    rw [← hall, List.length_append]
    omega
  cases hback with
  | tail _ =>
    have htail := hfits.2
    omega
  | @message _ _ k rest hfirst _ =>
    have hmessage := hfits.1 (bytes.take k) (List.mem_cons_self ..)
    have hle := hfirst.1.add_length_le
    rw [List.length_take] at hmessage
    -- The first separator ends behind the tail, for the tail holds none.
    have hcut : tail.length < k + s.bytes.length := by
      refine Nat.lt_of_not_le fun hinside => not_infix_iff.1 hnone k ?_
      rw [← occursAt_append_iff hinside, hall]
      exact hfirst.1
    omega

/-- The split of two byte strings in a row is small enough exactly when both of its parts are. -/
theorem Splits.fits_append_iff (hfront : s.Splits front messages tail)
    (hback : s.Splits (tail ++ back) messages' tail') :
    s.Fits limit (messages ++ messages') tail' ↔
      s.Fits limit messages tail ∧ s.Fits limit messages' tail' := by
  constructor
  · rintro ⟨hmessages, htail'⟩
    rw [List.forall_mem_append] at hmessages
    have hfits : s.Fits limit messages' tail' := ⟨hmessages.2, htail'⟩
    exact ⟨⟨hmessages.1, hback.tail_length_le hfront.not_infix_tail hfits⟩, hfits⟩
  · rintro ⟨hfits, hfits'⟩
    exact ⟨List.forall_mem_append.2 ⟨hfits.1, hfits'.1⟩, hfits'.2⟩

end Separator

namespace SeparatorFramer

variable {f g : SeparatorFramer} {chunk tail : Bytes} {messages : List Bytes}

/-- What holds of a decoder between two calls. The next search begins where a separator may that
ends in the next chunk. No separator is held. No more is held than the limit allows. -/
structure Sound (f : SeparatorFramer) : Prop where
  scanned_eq : f.scanned = f.pending.length - (f.separator.bytes.length - 1)
  not_infix : ¬ f.separator.bytes <:+: f.pending
  length_le : f.pending.length ≤ f.limit + f.separator.bytes.length - 1

/-- The decoder that holds `tail`. -/
def holding (f : SeparatorFramer) (tail : Bytes) : SeparatorFramer :=
  { f with pending := tail, scanned := tail.length - (f.separator.bytes.length - 1) }

theorem sound_clear (f : SeparatorFramer) : f.clear.Sound where
  scanned_eq := (Nat.zero_sub _).symm
  not_infix := Separator.not_infix_nil
  length_le := Nat.zero_le _

/-- No call changes the separator or the limit. -/
theorem clear_decode (f : SeparatorFramer) (chunk : Bytes) :
    (f.decode chunk).2.clear = f.clear := by
  unfold decode
  split
  · rfl
  · dsimp only
    split <;> rfl

/-- A call that fails starts afresh. -/
theorem decode_of_error {e : TransportError} (h : (f.decode chunk).1 = .error e) :
    (f.decode chunk).2 = f.clear := by
  unfold decode at h ⊢
  split at h
  · rfl
  · dsimp only at h ⊢
    split at h
    · next hlong => rw [if_pos hlong]; rfl
    · nomatch h

theorem Sound.scanned_le (h : f.Sound) : f.scanned ≤ f.pending.length := by
  rw [h.scanned_eq]
  exact Nat.sub_le _ _

/-- No separator begins before the offset of the next search, whatever the next chunk is. -/
theorem Sound.noneBefore (h : f.Sound) (chunk : Bytes) :
    f.separator.NoneBefore (f.pending ++ chunk) f.scanned := by
  intro j hj
  have hone := f.separator.one_le
  rw [h.scanned_eq] at hj
  rw [Separator.occursAt_append_iff (by omega)]
  intro hocc
  exact h.not_infix hocc.isInfix

theorem Sound.decode_of_fits (h : f.Sound)
    (hs : f.separator.Splits (f.pending ++ chunk) messages tail)
    (hfits : f.separator.Fits f.limit messages tail) :
    f.decode chunk = (.ok messages, f.holding tail) := by
  have hshort : messages.find? (fun m => f.limit < m.length) = none := by
    rw [List.find?_eq_none]
    intro m hm
    rw [decide_eq_true_iff]
    exact Nat.not_lt.2 (hfits.1 m hm)
  have htail : ¬ f.limit < tail.length - (f.separator.bytes.length - 1) := by
    have hle := hfits.2
    omega
  rw [decode, hs.split_eq (h.noneBefore chunk), hshort]
  simp only [List.reverse_nil, List.nil_append, if_neg htail, holding]

theorem Sound.decode_of_not_fits (h : f.Sound)
    (hs : f.separator.Splits (f.pending ++ chunk) messages tail)
    (hfits : ¬ f.separator.Fits f.limit messages tail) :
    ∃ size, f.limit < size ∧ f.decode chunk = f.refuse size := by
  rw [decode, hs.split_eq (h.noneBefore chunk)]
  cases hlong : messages.find? (fun m => f.limit < m.length) with
  | some m =>
    have hm := List.find?_some hlong
    exact ⟨m.length, of_decide_eq_true hm, rfl⟩
  | none =>
    have hmessages : ∀ m ∈ messages, m.length ≤ f.limit := by
      intro m hm
      have hshort := List.find?_eq_none.1 hlong m hm
      rw [decide_eq_true_iff] at hshort
      omega
    have htail : f.limit < tail.length - (f.separator.bytes.length - 1) := by
      have hone := f.separator.one_le
      have hgt := Nat.lt_of_not_le fun hle => hfits ⟨hmessages, hle⟩
      omega
    exact ⟨_, htail, by simp only [if_pos htail]⟩

/-- A call succeeds exactly when the split of what is held and the chunk is small enough. It then
answers the messages of the split and holds its tail. -/
theorem Sound.decode_eq_ok_iff (h : f.Sound) :
    f.decode chunk = (.ok messages, g) ↔
      ∃ tail, f.separator.Splits (f.pending ++ chunk) messages tail ∧
        f.separator.Fits f.limit messages tail ∧ g = f.holding tail := by
  constructor
  · intro hdecode
    obtain ⟨messages', tail, hs⟩ := f.separator.exists_splits (f.pending ++ chunk)
    by_cases hfits : f.separator.Fits f.limit messages' tail
    · rw [h.decode_of_fits hs hfits] at hdecode
      cases hdecode
      exact ⟨tail, hs, hfits, rfl⟩
    · obtain ⟨size, -, hrefuse⟩ := h.decode_of_not_fits hs hfits
      rw [hrefuse] at hdecode
      cases hdecode
  · rintro ⟨tail, hs, hfits, rfl⟩
    exact h.decode_of_fits hs hfits

theorem Sound.length_of_decode_eq_ok {m : Bytes} (h : f.Sound)
    (hdecode : (f.decode chunk).1 = .ok messages) (hm : m ∈ messages) : m.length ≤ f.limit := by
  obtain ⟨tail, -, hfits, -⟩ := h.decode_eq_ok_iff.1 (Prod.ext hdecode rfl)
  exact hfits.1 m hm

theorem sound_holding (hs : f.separator.Splits (f.pending ++ chunk) messages tail)
    (hfits : f.separator.Fits f.limit messages tail) : (f.holding tail).Sound where
  scanned_eq := rfl
  not_infix := hs.not_infix_tail
  length_le := hfits.2

theorem Sound.decode (h : f.Sound) (chunk : Bytes) : (f.decode chunk).2.Sound := by
  obtain ⟨messages, tail, hs⟩ := f.separator.exists_splits (f.pending ++ chunk)
  by_cases hfits : f.separator.Fits f.limit messages tail
  · rw [h.decode_of_fits hs hfits]
    exact sound_holding hs hfits
  · obtain ⟨size, -, hrefuse⟩ := h.decode_of_not_fits hs hfits
    rw [hrefuse]
    exact f.sound_clear

/-- A call without bytes finds nothing and changes nothing. -/
theorem Sound.decode_nil (h : f.Sound) : f.decode [] = (.ok [], f) := by
  have hs : f.separator.Splits (f.pending ++ []) [] f.pending := by
    rw [List.append_nil]
    exact .tail h.not_infix
  have hholding : f.holding f.pending = f := by
    rw [holding, ← h.scanned_eq]
  rw [h.decode_of_fits hs ⟨fun m hm => absurd hm List.not_mem_nil, h.length_le⟩, hholding]

/-- One call on two chunks succeeds exactly when a call on the first and then one on the second
do, with the messages of both and the same decoder in the end. -/
theorem Sound.decode_append_eq_ok_iff (h : f.Sound) (front back : Bytes) :
    f.decode (front ++ back) = (.ok messages, g) ↔
      ∃ messages₁ f₁ messages₂, f.decode front = (.ok messages₁, f₁) ∧
        f₁.decode back = (.ok messages₂, g) ∧ messages₁ ++ messages₂ = messages := by
  -- The split of the first chunk, that of its tail and the second, and the two in a row.
  obtain ⟨messages₁, tail₁, hs₁⟩ := f.separator.exists_splits (f.pending ++ front)
  obtain ⟨messages₂, tail₂, hs₂⟩ := f.separator.exists_splits (tail₁ ++ back)
  have hs := hs₁.append hs₂
  rw [List.append_assoc] at hs
  rw [h.decode_eq_ok_iff]
  constructor
  · rintro ⟨tail, hs', hfits, rfl⟩
    obtain ⟨rfl, rfl⟩ := hs.unique hs'
    obtain ⟨hfits₁, hfits₂⟩ := (hs₁.fits_append_iff hs₂).1 hfits
    have hsound := sound_holding hs₁ hfits₁
    exact ⟨_, _, _, h.decode_of_fits hs₁ hfits₁, hsound.decode_of_fits hs₂ hfits₂, rfl⟩
  · rintro ⟨messages₁', f₁, messages₂', hfront, hback, rfl⟩
    obtain ⟨tail₁', hs₁', hfits₁, rfl⟩ := h.decode_eq_ok_iff.1 hfront
    obtain ⟨rfl, rfl⟩ := hs₁.unique hs₁'
    obtain ⟨tail₂', hs₂', hfits₂, rfl⟩ := (sound_holding hs₁ hfits₁).decode_eq_ok_iff.1 hback
    obtain ⟨rfl, rfl⟩ := hs₂.unique hs₂'
    exact ⟨_, hs, (hs₁.fits_append_iff hs₂).2 ⟨hfits₁, hfits₂⟩, rfl⟩

end SeparatorFramer

end Switchboard
