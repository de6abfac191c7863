import Switchboard.Proofs.Framing.Occurrence

/-!
# The split at the leftmost separators

A byte string falls apart into messages and a tail: each message ends at the first separator of
what the messages before it left, and there is no separator in the tail. There is one such split.
The loop of the decoder computes it from any offset before which no separator begins, and the
split of a longer byte string goes on from the tail of a shorter one.
-/

namespace Switchboard.Separator

variable {s : Separator} {bytes front back tail tail' : Bytes} {messages messages' : List Bytes}
variable {limit scanned found : Nat} {done : List Bytes}

/-- `bytes` is `messages`, each with the separator that ends it, and `tail`. Every separator is the
first one in what is left, searched from its first byte. -/
inductive Splits (s : Separator) : Bytes → List Bytes → Bytes → Prop where
  | tail {bytes : Bytes} (hnone : ¬ s.bytes <:+: bytes) : Splits s bytes [] bytes
  | message {bytes tail : Bytes} {k : Nat} {messages : List Bytes} (hfirst : s.FirstAt bytes k)
      (hrest : Splits s (bytes.drop (k + s.bytes.length)) messages tail) :
      Splits s bytes (bytes.take k :: messages) tail

/-- Every byte string has a split. -/
theorem exists_splits (s : Separator) (bytes : Bytes) :
    ∃ messages tail, s.Splits bytes messages tail := by
  cases h : s.find? 0 (bytes.drop 0) with
  | none =>
    have hnone := (find?_resumed_eq_none_iff noneBefore_zero).1 h
    exact ⟨[], bytes, .tail (not_infix_iff.2 hnone)⟩
  | some found =>
    have hfirst := (find?_resumed_eq_some_iff noneBefore_zero).1 h
    obtain ⟨messages, tail, hrest⟩ := exists_splits s (bytes.drop (found + s.bytes.length))
    exact ⟨_, _, .message hfirst hrest⟩
termination_by bytes.length
decreasing_by exact length_drop_lt_of_find? h

/-- A byte string has at most one split. -/
theorem Splits.unique (h : s.Splits bytes messages tail) (h' : s.Splits bytes messages' tail') :
    messages' = messages ∧ tail' = tail := by
  induction h generalizing messages' tail' with
  | tail hnone =>
    cases h' with
    | tail _ => exact ⟨rfl, rfl⟩
    | message hfirst _ => exact absurd hfirst.1.isInfix hnone
  | message hfirst hrest ih =>
    cases h' with
    | tail hnone => exact absurd hfirst.1.isInfix hnone
    | message hfirst' hrest' =>
      cases hfirst.unique hfirst'
      obtain ⟨rfl, rfl⟩ := ih hrest'
      exact ⟨rfl, rfl⟩

/-- There is no separator in the tail. -/
theorem Splits.not_infix_tail (h : s.Splits bytes messages tail) : ¬ s.bytes <:+: tail := by
  induction h with
  | tail hnone => exact hnone
  | message _ _ ih => exact ih

/-- The messages, each followed by the separator, and the tail are the byte string again. -/
theorem Splits.eq_append (h : s.Splits bytes messages tail) :
    bytes = messages.flatMap (· ++ s.bytes) ++ tail := by
  induction h with
  | tail _ => rfl
  | message hfirst _ ih =>
    rw [List.flatMap_cons, List.append_assoc, ← ih]
    exact hfirst.eq_append

/-- What follows a byte string is split together with its tail. -/
theorem Splits.append (hfront : s.Splits front messages tail)
    (hback : s.Splits (tail ++ back) messages' tail') :
    s.Splits (front ++ back) (messages ++ messages') tail' := by
  induction hfront with
  | tail _ => exact hback
  | @message front _ k _ hfirst _ ih =>
    have hle := hfirst.1.add_length_le
    have hrest := ih hback
    rw [← List.drop_append_of_le_length hle] at hrest
    have hall := Splits.message hfirst.append hrest
    rwa [List.take_append_of_le_length (by omega)] at hall

/-- The first message of a split is one that nothing but its own separator ends. -/
theorem splits_message_append_iff {m : Bytes} :
    s.Splits (m ++ s.bytes ++ back) (m :: messages) tail ↔
      s.FirstAt (m ++ s.bytes) m.length ∧ s.Splits back messages tail := by
  constructor
  · generalize hall : m ++ s.bytes ++ back = bytes
    intro h
    cases h with
    | @message _ _ k _ hfirst hrest =>
      have hle := hfirst.1.add_length_le
      have hlen : (bytes.take k).length = k := by
        rw [List.length_take]
        omega
      have hend : (bytes.take k ++ s.bytes).length = k + s.bytes.length := by
        rw [List.length_append, hlen]
      rw [hlen]
      refine ⟨?_, ?_⟩
      · rw [← firstAt_append_iff (Nat.le_of_eq hend.symm), hall]
        exact hfirst
      · have hback : (bytes.take k ++ s.bytes ++ back).drop (k + s.bytes.length) = back :=
          List.drop_left' hend
        rw [hall] at hback
        rwa [hback] at hrest
  · rintro ⟨hfirst, hrest⟩
    have hback : (m ++ s.bytes ++ back).drop (m.length + s.bytes.length) = back :=
      List.drop_left' List.length_append
    rw [← hback] at hrest
    have hall := Splits.message hfirst.append hrest
    rwa [List.append_assoc, List.take_left, ← List.append_assoc] at hall

/-- Messages with a separator after each are split into these messages exactly when nothing but
its own separator ends any of them. -/
theorem splits_flatMap_iff :
    s.Splits (messages.flatMap (· ++ s.bytes)) messages [] ↔
      ∀ m ∈ messages, s.FirstAt (m ++ s.bytes) m.length := by
  induction messages with
  | nil =>
    exact ⟨fun _ m hm => absurd hm List.not_mem_nil, fun _ => .tail not_infix_nil⟩
  | cons m messages ih =>
    rw [List.flatMap_cons, splits_message_append_iff, ih, List.forall_mem_cons]

/-! ## The loop -/

theorem split_of_find?_eq_none (h : s.find? scanned (bytes.drop scanned) = none) :
    s.split limit scanned done bytes = .ok (done.reverse, bytes) := by
  rw [split]
  split
  · rfl
  · next found hfound =>
    rw [h] at hfound
    cases hfound

theorem split_of_find?_eq_some (h : s.find? scanned (bytes.drop scanned) = some found) :
    s.split limit scanned done bytes =
      if limit < found then .error found
      else s.split limit 0 (bytes.take found :: done) (bytes.drop (found + s.bytes.length)) := by
  rw [split]
  split
  · next hnone =>
    rw [h] at hnone
    cases hnone
  · next found' hfound =>
    rw [h] at hfound
    cases hfound
    rfl

/-- The loop answers the split, or the length of its first message that is too long. -/
theorem Splits.split_eq (h : s.Splits bytes messages tail)
    (hbefore : s.NoneBefore bytes scanned) :
    s.split limit scanned done bytes =
      match messages.find? (fun m => limit < m.length) with
      | some m => .error m.length
      | none => .ok (done.reverse ++ messages, tail) := by
  induction h generalizing scanned done with
  | tail hnone =>
    rw [not_infix_iff] at hnone
    rw [split_of_find?_eq_none ((find?_resumed_eq_none_iff hbefore).2 hnone), List.find?_nil,
      List.append_nil]
  | @message bytes tail k messages hfirst _ ih =>
    have hle := hfirst.1.add_length_le
    have hlen : (bytes.take k).length = k := by
      rw [List.length_take]
      omega
    rw [split_of_find?_eq_some ((find?_resumed_eq_some_iff hbefore).2 hfirst)]
    by_cases hlong : limit < k
    · rw [if_pos hlong]
      simp only [List.find?_cons, hlen, hlong, decide_true]
    · rw [if_neg hlong, ih noneBefore_zero, List.reverse_cons, List.append_assoc]
      simp only [List.find?_cons, hlen, hlong, decide_false]
      rfl

/-- The loop on `buffer` with a search from `scanned` takes no slice past the bytes it holds:
neither to search, nor to take off a message and the separator after it. -/
inductive InBounds (s : Separator) (limit : Nat) : Nat → Bytes → Prop where
  | stop {scanned : Nat} {buffer : Bytes} (hscanned : scanned ≤ buffer.length)
      (hfind : s.find? scanned (buffer.drop scanned) = none) : InBounds s limit scanned buffer
  | refuse {scanned found : Nat} {buffer : Bytes} (hscanned : scanned ≤ buffer.length)
      (hfind : s.find? scanned (buffer.drop scanned) = some found) (hlong : limit < found) :
      InBounds s limit scanned buffer
  | next {scanned found : Nat} {buffer : Bytes} (hscanned : scanned ≤ buffer.length)
      (hfind : s.find? scanned (buffer.drop scanned) = some found) (hfits : found ≤ limit)
      (htaken : found + s.bytes.length ≤ buffer.length)
      (hrest : InBounds s limit 0 (buffer.drop (found + s.bytes.length))) :
      InBounds s limit scanned buffer

theorem Splits.inBounds (h : s.Splits bytes messages tail)
    (hbefore : s.NoneBefore bytes scanned) (hscanned : scanned ≤ bytes.length) :
    s.InBounds limit scanned bytes := by
  induction h generalizing scanned with
  | tail hnone =>
    rw [not_infix_iff] at hnone
    exact .stop hscanned ((find?_resumed_eq_none_iff hbefore).2 hnone)
  | @message bytes tail k messages hfirst _ ih =>
    have hfind := (find?_resumed_eq_some_iff hbefore).2 hfirst
    by_cases hlong : limit < k
    · exact .refuse hscanned hfind hlong
    · exact .next hscanned hfind (by omega) hfirst.1.add_length_le
        (ih noneBefore_zero (Nat.zero_le _))

end Switchboard.Separator
