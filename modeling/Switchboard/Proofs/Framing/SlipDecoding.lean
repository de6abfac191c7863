import Switchboard.Framing.Slip

/-!
# Decoding stuffed messages

The decoder takes a chunk byte by byte and looks at the limit after each, so a chunk may be cut
anywhere. A stuffed message that fits adds its own bytes to what is held, and the delimiter after
it sets it free.
-/

namespace Switchboard.SlipFramer

open Slip

variable {f g : SlipFramer} {messages : List Bytes} {m rest chunk : Bytes} {b : UInt8}
variable {limit : Nat}

theorem step_limit (f : SlipFramer) (b : UInt8) : (f.step b).2.limit = f.limit := by
  unfold step
  split
  · split
    · rfl
    · split <;> rfl
  · split
    · rfl
    · split
      · split <;> rfl
      · rfl

theorem clear_step (f : SlipFramer) (b : UInt8) : (f.step b).2.clear = f.clear := by
  rw [clear, clear, step_limit]

/-! ## One call -/

/-- The messages that were finished before only stand before those that are still to come. -/
theorem decodeFrom_eq (done : List Bytes) (f : SlipFramer) (bytes : Bytes) :
    decodeFrom done f bytes =
      ((decodeFrom [] f bytes).1.map (done.reverse ++ ·), (decodeFrom [] f bytes).2) := by
  induction bytes generalizing done f with
  | nil => simp only [decodeFrom, Except.map, List.reverse_nil, List.append_nil]
  | cons b rest ih =>
    simp only [decodeFrom]
    split
    · rfl
    · rw [ih, ih ((f.step b).1.toList ++ [])]
      cases (decodeFrom [] (f.step b).2 rest).1 with
      | error e => rfl
      | ok messages =>
        simp only [Except.map, List.append_nil, List.reverse_append, List.append_assoc]

theorem decode_nil (f : SlipFramer) : f.decode [] = (.ok [], f) := rfl

/-- The first byte is taken by itself, and then the limit is looked at. -/
theorem decode_cons (f : SlipFramer) (b : UInt8) (rest : Bytes) :
    f.decode (b :: rest) =
      if f.limit < (f.step b).2.pending.size then
        (.error (.messageTooLarge (f.step b).2.pending.size f.limit), f.clear)
      else
        (((f.step b).2.decode rest).1.map ((f.step b).1.toList ++ ·),
          ((f.step b).2.decode rest).2) := by
  have hreverse : (f.step b).1.toList.reverse = (f.step b).1.toList := by
    cases (f.step b).1 <;> rfl
  simp only [decode, decodeFrom, step_limit, clear_step]
  rw [decodeFrom_eq ((f.step b).1.toList ++ []), List.append_nil, hreverse]

/-- A call succeeds exactly when its first byte stays within the limit and the rest succeeds. -/
theorem decode_cons_eq_ok_iff : f.decode (b :: rest) = (.ok messages, g) ↔
    (f.step b).2.pending.size ≤ f.limit ∧
      ∃ messages', (f.step b).2.decode rest = (.ok messages', g) ∧
        (f.step b).1.toList ++ messages' = messages := by
  rw [decode_cons]
  by_cases hlong : f.limit < (f.step b).2.pending.size
  · rw [if_pos hlong]
    constructor
    · intro h
      cases h
    · rintro ⟨hle, -⟩
      omega
  · rw [if_neg hlong]
    cases hrest : (f.step b).2.decode rest with
    | mk answer last =>
      cases answer with
      | error e =>
        constructor
        · intro h
          cases h
        · rintro ⟨-, _, h, -⟩
          cases h
      | ok messages' =>
        constructor
        · intro h
          cases h
          exact ⟨by omega, _, rfl, rfl⟩
        · rintro ⟨-, _, h, rfl⟩
          cases h
          rfl

/-- One call on two chunks succeeds exactly when a call on the first and then one on the second
do, with the messages of both and the same decoder in the end. -/
theorem decode_append_eq_ok_iff (front back : Bytes) :
    f.decode (front ++ back) = (.ok messages, g) ↔
      ∃ messages₁ f₁ messages₂, f.decode front = (.ok messages₁, f₁) ∧
        f₁.decode back = (.ok messages₂, g) ∧ messages₁ ++ messages₂ = messages := by
  induction front generalizing f messages with
  | nil =>
    constructor
    · intro h
      exact ⟨[], f, messages, rfl, h, rfl⟩
    · rintro ⟨messages₁, f₁, messages₂, hnil, hback, rfl⟩
      cases hnil
      exact hback
  | cons b front ih =>
    rw [List.cons_append, decode_cons_eq_ok_iff]
    constructor
    · rintro ⟨hle, messages', hdecode, rfl⟩
      obtain ⟨messages₁, f₁, messages₂, hfront, hback, rfl⟩ := ih.1 hdecode
      refine ⟨_, f₁, messages₂, decode_cons_eq_ok_iff.2 ⟨hle, messages₁, hfront, rfl⟩, hback, ?_⟩
      exact List.append_assoc _ _ _
    · rintro ⟨messages₁, f₁, messages₂, hfront, hback, rfl⟩
      obtain ⟨hle, messages', hdecode, rfl⟩ := decode_cons_eq_ok_iff.1 hfront
      refine ⟨hle, _, ih.2 ⟨messages', f₁, messages₂, hdecode, hback, rfl⟩, ?_⟩
      exact (List.append_assoc _ _ _).symm

theorem clear_decode (f : SlipFramer) (chunk : Bytes) : (f.decode chunk).2.clear = f.clear := by
  induction chunk generalizing f with
  | nil => rfl
  | cons b rest ih =>
    rw [decode_cons]
    split
    · rfl
    · exact (ih _).trans (clear_step f b)

/-- Between two calls no more is held than the limit allows. -/
theorem decode_size_le (hf : f.pending.size ≤ f.limit) (chunk : Bytes) :
    (f.decode chunk).2.pending.size ≤ (f.decode chunk).2.limit := by
  induction chunk generalizing f with
  | nil => exact hf
  | cons b rest ih =>
    rw [decode_cons]
    split
    · exact Nat.zero_le _
    · next hle =>
      refine ih ?_
      rw [step_limit]
      exact Nat.le_of_not_lt hle

/-- A call that fails starts afresh. -/
theorem decode_of_error {e : TransportError} (h : (f.decode chunk).1 = .error e) :
    (f.decode chunk).2 = f.clear := by
  induction chunk generalizing f with
  | nil => nomatch h
  | cons b rest ih =>
    rw [decode_cons] at h ⊢
    by_cases hlong : f.limit < (f.step b).2.pending.size
    · rw [if_pos hlong]
    · rw [if_neg hlong] at h ⊢
      rw [← clear_step f b]
      cases hrest : ((f.step b).2.decode rest).1 with
      | ok messages =>
        rw [hrest] at h
        nomatch h
      | error e' =>
        rw [hrest] at h
        cases h
        exact ih hrest

/-- A byte that finishes a message gives free what was held, if that is anything. -/
theorem step_eq_some (h : (f.step b).1 = some m) : m = f.pending.toList ∧ m ≠ [] := by
  unfold step at h
  split at h
  · split at h
    · nomatch h
    · split at h <;> nomatch h
  · split at h
    · nomatch h
    · split at h
      · split at h
        · nomatch h
        · next hheld =>
          cases h
          exact ⟨rfl, by simpa using hheld⟩
      · nomatch h

/-- A message that a call answers has been held whole, so it is within the limit. -/
theorem length_of_decode_eq_ok (hf : f.pending.size ≤ f.limit)
    (h : (f.decode chunk).1 = .ok messages) (hm : m ∈ messages) :
    1 ≤ m.length ∧ m.length ≤ f.limit := by
  induction chunk generalizing f messages with
  | nil =>
    cases h
    nomatch hm
  | cons b rest ih =>
    obtain ⟨hstep, messages', hrest, rfl⟩ := decode_cons_eq_ok_iff.1 (Prod.ext h rfl)
    rcases List.mem_append.1 hm with hfirst | hlater
    · obtain ⟨rfl, hne⟩ := step_eq_some (Option.mem_toList.1 hfirst)
      exact ⟨List.length_pos_iff.2 hne, by rwa [Array.length_toList]⟩
    · rw [← step_limit f b] at hstep ⊢
      exact ih hstep (congrArg Prod.fst hrest) hlater

/-! ## Stuffed messages -/

variable {held : Array UInt8}

/-- ESC and a partner that stands for `b` add `b` to what is held. -/
theorem decode_pair {partner : UInt8} (hfits : held.size < limit)
    (hpair : step ⟨limit, held, true⟩ partner = (none, ⟨limit, held.push b, false⟩)) :
    decode ⟨limit, held, false⟩ [escByte, partner] = (.ok [], ⟨limit, held.push b, false⟩) := by
  have hesc : step ⟨limit, held, false⟩ escByte = (none, ⟨limit, held, true⟩) := rfl
  have hpush : (held.push b).size ≤ limit := by
    rw [Array.size_push]
    omega
  rw [decode_cons_eq_ok_iff, hesc]
  refine ⟨Nat.le_of_lt hfits, [], ?_, rfl⟩
  rw [decode_cons_eq_ok_iff, hpair]
  exact ⟨hpush, [], decode_nil _, rfl⟩

/-- A stuffed byte adds the byte itself to what is held. -/
theorem decode_stuff (held : Array UInt8) (hfits : held.size < limit) (b : UInt8) :
    decode ⟨limit, held, false⟩ (stuff b) = (.ok [], ⟨limit, held.push b, false⟩) := by
  unfold stuff
  split
  · next hb =>
    subst hb
    exact decode_pair hfits rfl
  · next hend =>
    split
    · next hb =>
      subst hb
      exact decode_pair hfits rfl
    · next hesc =>
      have hstep : step ⟨limit, held, false⟩ b = (none, ⟨limit, held.push b, false⟩) := by
        simp only [step, Bool.false_eq_true, if_false, if_neg hesc, if_neg hend]
      rw [decode_cons_eq_ok_iff, hstep]
      refine ⟨?_, [], decode_nil _, rfl⟩
      show (held.push b).size ≤ limit
      rw [Array.size_push]
      omega

/-- A stuffed message adds the message itself to what is held. -/
theorem decode_flatMap_stuff (held : Array UInt8) (hfits : held.size + m.length ≤ limit) :
    decode ⟨limit, held, false⟩ (m.flatMap stuff) =
      (.ok [], ⟨limit, held ++ m.toArray, false⟩) := by
  induction m generalizing held with
  | nil => rfl
  | cons b m ih =>
    rw [List.length_cons] at hfits
    have hrest := ih (held.push b) (by rw [Array.size_push]; omega)
    have hheld : held.push b ++ m.toArray = held ++ (b :: m).toArray := by simp
    rw [hheld] at hrest
    rw [List.flatMap_cons, decode_append_eq_ok_iff]
    exact ⟨_, _, _, decode_stuff held (by omega) b, hrest, rfl⟩

/-- A delimiter gives the held message free, if there is one. -/
theorem decode_end (m : Bytes) : decode ⟨limit, m.toArray, false⟩ [endByte] =
    (.ok (if m = [] then [] else [m]), ⟨limit, #[], false⟩) := by
  cases m with
  | nil => exact decode_cons_eq_ok_iff.2 ⟨Nat.zero_le _, [], rfl, rfl⟩
  | cons b m => exact decode_cons_eq_ok_iff.2 ⟨Nat.zero_le _, [], rfl, rfl⟩

/-- A message that fits, as it is sent, comes back as that message, or as none if it is empty. -/
theorem decode_encode (hfits : m.length ≤ limit) :
    decode ⟨limit, #[], false⟩ (encode m) =
      (.ok (if m = [] then [] else [m]), ⟨limit, #[], false⟩) := by
  have hopen : decode ⟨limit, #[], false⟩ [endByte] = (.ok [], ⟨limit, #[], false⟩) :=
    decode_end []
  have hbody : decode ⟨limit, #[], false⟩ (m.flatMap stuff) =
      (.ok [], ⟨limit, m.toArray, false⟩) := by
    rw [decode_flatMap_stuff #[] (by rwa [Array.size_empty, Nat.zero_add]), Array.empty_append]
  rw [encode, ← List.singleton_append, decode_append_eq_ok_iff]
  refine ⟨_, _, _, hopen, ?_, List.nil_append _⟩
  rw [decode_append_eq_ok_iff]
  exact ⟨_, _, _, hbody, decode_end m, List.nil_append _⟩

/-- Messages that fit, sent one after the other, come back but for the empty ones. -/
theorem decode_flatMap_encode (hfits : ∀ m ∈ messages, m.length ≤ limit) :
    decode ⟨limit, #[], false⟩ (messages.flatMap encode) =
      (.ok (messages.filter (· ≠ [])), ⟨limit, #[], false⟩) := by
  induction messages with
  | nil => rfl
  | cons m messages ih =>
    rw [List.forall_mem_cons] at hfits
    rw [List.flatMap_cons, decode_append_eq_ok_iff]
    refine ⟨_, _, _, decode_encode hfits.1, ih hfits.2, ?_⟩
    by_cases hm : m = [] <;> simp [hm]

end Switchboard.SlipFramer
