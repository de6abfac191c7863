import Switchboard.Framing.Separator

/-!
# Where a separator occurs

An occurrence is an offset at which the bytes of the separator begin. The search of the decoder
answers the first occurrence, and it still does so when it begins at an offset before which there
is none.
-/

namespace Switchboard.Separator

variable {s : Separator} {bytes rest : Bytes} {b : UInt8} {k n offset found scanned : Nat}

/-- The separator occurs in `bytes` at offset `k`. -/
def OccursAt (s : Separator) (bytes : Bytes) (k : Nat) : Prop := s.bytes <+: bytes.drop k

/-- The separator occurs in `bytes` at no offset before `n`. -/
def NoneBefore (s : Separator) (bytes : Bytes) (n : Nat) : Prop := ∀ j < n, ¬ s.OccursAt bytes j

/-- The first occurrence of the separator in `bytes` is at offset `k`. -/
def FirstAt (s : Separator) (bytes : Bytes) (k : Nat) : Prop :=
  s.OccursAt bytes k ∧ s.NoneBefore bytes k

instance : Decidable (s.OccursAt bytes k) := inferInstanceAs (Decidable (_ <+: _))

instance : Decidable (s.NoneBefore bytes n) := inferInstanceAs (Decidable (∀ j < n, _))

instance : Decidable (s.FirstAt bytes k) := inferInstanceAs (Decidable (_ ∧ _))

theorem noneBefore_zero : s.NoneBefore bytes 0 := fun j hj => absurd hj (Nat.not_lt_zero j)

/-- An occurrence lies inside the byte string as a whole. -/
theorem OccursAt.add_length_le (h : s.OccursAt bytes k) : k + s.bytes.length ≤ bytes.length := by
  have hlen := List.IsPrefix.length_le h
  have hone := s.one_le
  rw [List.length_drop] at hlen
  omega

theorem not_occursAt_nil : ¬ s.OccursAt [] k := by
  intro h
  have hle := h.add_length_le
  have hone := s.one_le
  rw [List.length_nil] at hle
  omega

theorem occursAt_drop : s.OccursAt (bytes.drop n) k ↔ s.OccursAt bytes (n + k) := by
  rw [OccursAt, OccursAt, List.drop_drop]

/-- Whether the separator occurs where `bytes` holds all of it does not depend on what follows. -/
theorem occursAt_append_iff (h : k + s.bytes.length ≤ bytes.length) :
    s.OccursAt (bytes ++ rest) k ↔ s.OccursAt bytes k := by
  rw [OccursAt, OccursAt, List.drop_append_of_le_length (by omega)]
  constructor
  · intro hp
    refine List.prefix_of_prefix_length_le hp (List.prefix_append _ _) ?_
    rw [List.length_drop]
    omega
  · intro hp
    exact hp.trans (List.prefix_append _ _)

theorem OccursAt.isInfix (h : s.OccursAt bytes k) : s.bytes <:+: bytes :=
  (List.IsPrefix.isInfix h).trans (List.drop_suffix k bytes).isInfix

/-- There is no separator in a byte string exactly when it occurs at no offset. -/
theorem not_infix_iff : ¬ s.bytes <:+: bytes ↔ ∀ k, ¬ s.OccursAt bytes k := by
  constructor
  · intro hnone k hocc
    exact hnone hocc.isInfix
  · rintro hnone ⟨front, back, rfl⟩
    refine hnone front.length ?_
    rw [OccursAt, List.append_assoc, List.drop_left]
    exact List.prefix_append _ _

theorem not_infix_nil : ¬ s.bytes <:+: [] := not_infix_iff.2 fun _ => not_occursAt_nil

/-- Whether the first occurrence is where `bytes` holds all of it does not depend on what
follows. -/
theorem firstAt_append_iff (h : k + s.bytes.length ≤ bytes.length) :
    s.FirstAt (bytes ++ rest) k ↔ s.FirstAt bytes k := by
  rw [FirstAt, FirstAt, occursAt_append_iff h]
  refine and_congr_right fun _ => forall_congr' fun j => imp_congr_right fun hj => ?_
  rw [occursAt_append_iff (by omega)]

/-- A first occurrence stays the first one whatever follows. -/
theorem FirstAt.append (h : s.FirstAt bytes k) : s.FirstAt (bytes ++ rest) k :=
  (firstAt_append_iff h.1.add_length_le).2 h

theorem FirstAt.unique {j : Nat} (hj : s.FirstAt bytes j) (hk : s.FirstAt bytes k) : j = k := by
  have hkj : k ≤ j := Nat.le_of_not_lt fun hlt => hk.2 j hlt hj.1
  have hjk : j ≤ k := Nat.le_of_not_lt fun hlt => hj.2 k hlt hk.1
  omega

/-- In a byte string that goes on from its second byte, offsets move by one. -/
theorem firstAt_cons_succ (h : ¬ s.OccursAt (b :: bytes) 0) :
    s.FirstAt (b :: bytes) (k + 1) ↔ s.FirstAt bytes k := by
  constructor
  · rintro ⟨hocc, hbefore⟩
    exact ⟨hocc, fun j hj => hbefore (j + 1) (by omega)⟩
  · rintro ⟨hocc, hbefore⟩
    refine ⟨hocc, ?_⟩
    intro j hj
    cases j with
    | zero => exact h
    | succ j => exact hbefore j (by omega)

/-- At a first occurrence the byte string is the message, the separator and what follows. -/
theorem FirstAt.eq_append (h : s.FirstAt bytes k) :
    bytes = bytes.take k ++ s.bytes ++ bytes.drop (k + s.bytes.length) := by
  obtain ⟨rest, hrest⟩ := h.1
  have hdrop : bytes.drop (k + s.bytes.length) = rest := by
    rw [← List.drop_drop, ← hrest, List.drop_left]
  rw [hdrop, List.append_assoc, hrest, List.take_append_drop]

/-! ## A message and the separator after it -/

theorem occursAt_append_self (bytes : Bytes) : s.OccursAt (bytes ++ s.bytes) bytes.length := by
  refine ⟨[], ?_⟩
  rw [List.append_nil, List.drop_left]

theorem exists_pair (h : s.bytes.length = 2) : ∃ a b, s.bytes = [a, b] := by
  match hbytes : s.bytes, h with
  | [a, b], _ => exact ⟨a, b, rfl⟩

/-- A separator that begins in a message and ends in the separator after it overlaps itself by one
byte, so it is that byte twice. -/
theorem firstAt_append_self_of_not_infix (hs : ∀ b, s.bytes ≠ [b, b]) (h : ¬ s.bytes <:+: bytes) :
    s.FirstAt (bytes ++ s.bytes) bytes.length := by
  refine ⟨occursAt_append_self bytes, ?_⟩
  intro j hj hocc
  have hone := s.one_le
  have htwo := s.le_two
  by_cases hinside : j + s.bytes.length ≤ bytes.length
  · exact h ((occursAt_append_iff hinside).1 hocc).isInfix
  · -- The separator takes the last byte of the message and the first of the separator after it.
    obtain ⟨a, b, hpair⟩ := exists_pair (s := s) (by omega)
    obtain ⟨c, hlast⟩ := List.length_eq_one_iff.1
      (show (bytes.drop j).length = 1 by rw [List.length_drop]; omega)
    rw [OccursAt, List.drop_append_of_le_length (Nat.le_of_lt hj), hlast, hpair] at hocc
    rw [List.singleton_append, List.cons_prefix_cons, List.cons_prefix_cons] at hocc
    exact hs b (by rw [hpair, hocc.2.1])

/-- A byte twice begins one byte before the end of whatever ends in that byte. -/
theorem not_firstAt_append_self_of_getLast? (hs : s.bytes = [b, b])
    (h : bytes.getLast? = some b) : ¬ s.FirstAt (bytes ++ s.bytes) bytes.length := by
  obtain ⟨front, rfl⟩ := List.getLast?_eq_some_iff.1 h
  intro hfirst
  refine hfirst.2 front.length ?_ ?_
  · rw [List.length_append, List.length_singleton]
    exact Nat.lt_succ_self _
  · rw [OccursAt, List.append_assoc, List.drop_left, hs]
    exact ⟨[b], rfl⟩

/-! ## The search -/

theorem find?_cons : s.find? offset (b :: bytes) =
    if s.OccursAt (b :: bytes) 0 then some offset else s.find? (offset + 1) bytes := by
  rw [find?]
  have hoccurs : s.bytes.isPrefixOf (b :: bytes) = true ↔ s.OccursAt (b :: bytes) 0 :=
    List.isPrefixOf_iff_prefix
  by_cases h : s.OccursAt (b :: bytes) 0
  · rw [if_pos h, if_pos (hoccurs.2 h)]
  · rw [if_neg h, if_neg (mt hoccurs.1 h)]

/-- Nothing is found exactly when the separator occurs nowhere. -/
theorem find?_eq_none_iff : s.find? offset bytes = none ↔ ∀ k, ¬ s.OccursAt bytes k := by
  induction bytes generalizing offset with
  | nil => exact ⟨fun _ _ => not_occursAt_nil, fun _ => rfl⟩
  | cons b bytes ih =>
    rw [find?_cons]
    by_cases h : s.OccursAt (b :: bytes) 0
    · rw [if_pos h]
      constructor
      · intro hnone
        cases hnone
      · intro hnone
        exact absurd h (hnone 0)
    · rw [if_neg h, ih]
      constructor
      · intro hnone k
        cases k with
        | zero => exact h
        | succ k => exact hnone k
      · intro hnone k
        exact hnone (k + 1)

/-- What is found is the first occurrence, counted from the offset of the byte string. -/
theorem find?_eq_some_iff :
    s.find? offset bytes = some found ↔ ∃ k, found = offset + k ∧ s.FirstAt bytes k := by
  induction bytes generalizing offset with
  | nil =>
    constructor
    · intro h
      cases h
    · rintro ⟨k, -, hocc, -⟩
      exact absurd hocc not_occursAt_nil
  | cons b bytes ih =>
    rw [find?_cons]
    by_cases h : s.OccursAt (b :: bytes) 0
    · have hzero : s.FirstAt (b :: bytes) 0 := ⟨h, noneBefore_zero⟩
      rw [if_pos h]
      constructor
      · intro heq
        cases heq
        exact ⟨0, rfl, hzero⟩
      · rintro ⟨k, rfl, hk⟩
        rw [← hzero.unique hk, Nat.add_zero]
    · rw [if_neg h, ih]
      constructor
      · rintro ⟨k, rfl, hk⟩
        exact ⟨k + 1, by omega, (firstAt_cons_succ h).2 hk⟩
      · rintro ⟨k, rfl, hk⟩
        cases k with
        | zero => exact absurd hk.1 h
        | succ k => exact ⟨k, by omega, (firstAt_cons_succ h).1 hk⟩

/-- Searching from an offset before which nothing occurs finds nothing exactly when there is
nothing at all. -/
theorem find?_resumed_eq_none_iff (hbefore : s.NoneBefore bytes scanned) :
    s.find? scanned (bytes.drop scanned) = none ↔ ∀ k, ¬ s.OccursAt bytes k := by
  rw [find?_eq_none_iff]
  constructor
  · intro hnone k
    by_cases hk : k < scanned
    · exact hbefore k hk
    · have hafter := hnone (k - scanned)
      rwa [occursAt_drop, Nat.add_sub_cancel' (by omega)] at hafter
  · intro hnone k
    rw [occursAt_drop]
    exact hnone (scanned + k)

/-- Searching from an offset before which nothing occurs finds the first occurrence in the whole
byte string. -/
theorem find?_resumed_eq_some_iff (hbefore : s.NoneBefore bytes scanned) :
    s.find? scanned (bytes.drop scanned) = some found ↔ s.FirstAt bytes found := by
  rw [find?_eq_some_iff]
  constructor
  · rintro ⟨k, rfl, hocc, hfirst⟩
    refine ⟨occursAt_drop.1 hocc, ?_⟩
    intro j hj
    by_cases hlt : j < scanned
    · exact hbefore j hlt
    · have hafter := hfirst (j - scanned) (by omega)
      rwa [occursAt_drop, Nat.add_sub_cancel' (by omega)] at hafter
  · rintro ⟨hocc, hfirst⟩
    have hle : scanned ≤ found := Nat.le_of_not_lt fun hlt => hbefore found hlt hocc
    refine ⟨found - scanned, by omega, ?_, ?_⟩
    · rwa [occursAt_drop, Nat.add_sub_cancel' hle]
    · intro j hj
      rw [occursAt_drop]
      exact hfirst (scanned + j) (by omega)

end Switchboard.Separator
