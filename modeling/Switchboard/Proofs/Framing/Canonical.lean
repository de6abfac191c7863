import Mathlib.Data.Set.Function
import Switchboard.Proofs.Framing.SlipReading

/-!
# The form in which stuffed messages are sent

Between its two delimiters a message stands without a delimiter inside, and after every ESC stands
one of the two partners that mean something. Every byte string of this form is sent for exactly one
message, the one that it is decoded to.
-/

namespace Switchboard

namespace Slip

variable {b : UInt8} {m body frame : Bytes}

/-- Every ESC stands right before one of the partners that mean something. -/
def Paired (body : Bytes) : Prop :=
  ∀ k, body[k]? = some escByte →
    body[k + 1]? = some escEndByte ∨ body[k + 1]? = some escEscByte

/-- The form of a message with any bytes as it is sent. -/
def IsFrame (frame : Bytes) : Prop :=
  ∃ body, frame = endByte :: (body ++ [endByte]) ∧ body ≠ [] ∧ endByte ∉ body ∧ Paired body

/-- The literals of a stream, whatever delimiters are between them. -/
def literals (stream : Bytes) : Bytes := (signs stream).filterMap Sign.literal?

theorem literals_encode (m : Bytes) : literals (encode m) = m := by
  have hsigns : signs (encode m) = .delimiter :: (m.map .literal ++ [.delimiter]) := by
    have h := encode_append m []
    rw [List.append_nil] at h
    rw [h, signs_end_cons, signs_flatMap_stuff_append, signs_end_cons]
    rfl
  have hliterals : (Sign.literal? ∘ Sign.literal : UInt8 → Option UInt8) = some := rfl
  rw [literals, hsigns, List.filterMap_cons_none rfl, List.filterMap_append, List.filterMap_map,
    hliterals, List.filterMap_some]
  exact List.append_nil m

/-! ## What is sent has the form -/

theorem endByte_notMem_flatMap_stuff (m : Bytes) : endByte ∉ m.flatMap stuff := by
  rw [List.mem_flatMap]
  rintro ⟨b, -, hb⟩
  obtain ⟨-, hstuff⟩ | ⟨-, hstuff⟩ | ⟨hend, -, hstuff⟩ := stuff_cases b
  · rw [hstuff] at hb
    revert hb
    decide
  · rw [hstuff] at hb
    revert hb
    decide
  · rw [hstuff] at hb
    exact hend (List.mem_singleton.1 hb).symm

/-- A pair in front of the others. -/
theorem Paired.pair_cons {partner : UInt8} (h : Paired body)
    (hpartner : partner = escEndByte ∨ partner = escEscByte) :
    Paired (escByte :: partner :: body) := by
  intro k hk
  match k with
  | 0 =>
    obtain rfl | rfl := hpartner
    · exact .inl rfl
    · exact .inr rfl
  | 1 =>
    -- Neither partner is an ESC itself.
    have hesc : partner = escByte := Option.some.inj hk
    obtain rfl | rfl := hpartner
    · exact absurd hesc (by decide)
    · exact absurd hesc (by decide)
  | k + 2 => exact h k hk

theorem Paired.single_cons (h : Paired body) (hb : b ≠ escByte) : Paired (b :: body) := by
  intro k hk
  match k with
  | 0 => exact absurd (Option.some.inj hk) hb
  | k + 1 => exact h k hk

theorem paired_flatMap_stuff (m : Bytes) : Paired (m.flatMap stuff) := by
  induction m with
  | nil =>
    intro k hk
    cases hk
  | cons b m ih =>
    rw [List.flatMap_cons]
    obtain ⟨-, hstuff⟩ | ⟨-, hstuff⟩ | ⟨-, hesc, hstuff⟩ := stuff_cases b
    · rw [hstuff]
      exact ih.pair_cons (.inl rfl)
    · rw [hstuff]
      exact ih.pair_cons (.inr rfl)
    · rw [hstuff]
      exact ih.single_cons hesc

/-- A byte that is stuffed takes one more. -/
theorem length_stuff (b : UInt8) :
    (stuff b).length = 1 + ([b].count endByte + [b].count escByte) := by
  obtain ⟨rfl, hstuff⟩ | ⟨rfl, hstuff⟩ | ⟨hend, hesc, hstuff⟩ := stuff_cases b
  · rw [hstuff]
    rfl
  · rw [hstuff]
    rfl
  · rw [hstuff, List.count_singleton, List.count_singleton]
    simp [hend, hesc]

theorem length_flatMap_stuff (m : Bytes) :
    (m.flatMap stuff).length = m.length + (m.count endByte + m.count escByte) := by
  induction m with
  | nil => rfl
  | cons b m ih =>
    have hcount (c : UInt8) : (b :: m).count c = [b].count c + m.count c := by
      rw [← List.singleton_append, List.count_append]
    rw [List.flatMap_cons, List.length_append, length_stuff, ih, List.length_cons, hcount, hcount]
    omega

theorem length_encode (m : Bytes) :
    (encode m).length = m.length + 2 + (m.count endByte + m.count escByte) := by
  rw [encode, List.length_cons, List.length_append, length_flatMap_stuff, List.length_singleton]
  omega

theorem isFrame_encode (hm : m ≠ []) : IsFrame (encode m) := by
  refine ⟨m.flatMap stuff, rfl, ?_, endByte_notMem_flatMap_stuff m, paired_flatMap_stuff m⟩
  have hpos := List.length_pos_iff.2 hm
  apply List.ne_nil_of_length_pos
  rw [length_flatMap_stuff]
  omega

/-! ## What has the form is sent -/

theorem Paired.of_cons (h : Paired (b :: body)) : Paired body :=
  fun k hk => h (k + 1) hk

/-- What holds no delimiter and has a partner for every ESC is a stuffed message. -/
theorem exists_eq_flatMap_stuff (hend : endByte ∉ body) (hpaired : Paired body) :
    ∃ m : Bytes, body = m.flatMap stuff := by
  -- By the pieces, which take an ESC and its partner together.
  fun_induction pieces body with
  | case1 => exact ⟨[], rfl⟩
  | case2 => cases hpaired 0 rfl with
    | inl h => cases h
    | inr h => cases h
  | case3 partner rest ih =>
    have hrest : endByte ∉ rest := fun h => hend (by simp [h])
    obtain ⟨m, rfl⟩ := ih hrest hpaired.of_cons.of_cons
    obtain hpartner | hpartner := hpaired 0 rfl
    · cases hpartner
      exact ⟨endByte :: m, rfl⟩
    · cases hpartner
      exact ⟨escByte :: m, rfl⟩
  | case4 b rest hesc ih =>
    have hb : b ≠ endByte := fun h => hend (by simp [h])
    have hrest : endByte ∉ rest := fun h => hend (by simp [h])
    obtain ⟨m, rfl⟩ := ih hrest hpaired.of_cons
    refine ⟨b :: m, ?_⟩
    rw [List.flatMap_cons, stuff, if_neg hb, if_neg hesc]
    rfl

theorem exists_eq_encode (h : IsFrame frame) : ∃ m, m ≠ [] ∧ frame = encode m := by
  obtain ⟨body, rfl, hbody, hend, hpaired⟩ := h
  obtain ⟨m, rfl⟩ := exists_eq_flatMap_stuff hend hpaired
  refine ⟨m, ?_, rfl⟩
  rintro rfl
  exact hbody rfl

end Slip

namespace SlipFramer

open Slip

/-- A decoder that holds nothing takes a message, even if an ESC waits. -/
theorem decode_encode_of_empty {limit : Nat} {m : Bytes} (hm : m ≠ []) (hfits : m.length ≤ limit)
    (escaped : Bool) :
    decode ⟨limit, #[], escaped⟩ (encode m) = (.ok [m], { limit := limit }) := by
  cases escaped with
  | false => rw [decode_encode hfits, if_neg hm]
  | true =>
    have hsegments := segments_esc_encode_append m []
    have htorn := endsTorn_esc_encode_append m []
    rw [List.append_nil] at hsegments htorn
    have hshort : ∀ s ∈ [m], s.length ≤ limit := by simpa using hfits
    have hmessages : [m] = [m].filter (· ≠ []) := by simp [hm]
    rw [decode_escaped #[] (Nat.zero_le _), decode_eq_answer #[] (Nat.zero_le _), hsegments, htorn,
      List.modifyHead_cons]
    exact answer_finished_eq_ok_iff.2 ⟨hshort, hmessages, rfl⟩

/-- **What is sent and what has the form are one for one.** Sending takes the messages that have
any bytes to the byte strings of the form, each of these from exactly one message, and makes a
message longer by its two delimiters and by one for every byte that is stuffed. Back again, a
decoder with nothing pending that admits the literals finds exactly this message. -/
theorem encode_bijOn_isFrame :
    Set.BijOn encode { m | m ≠ [] } { frame | IsFrame frame } ∧
    (∀ m, (encode m).length = m.length + 2 + (m.count endByte + m.count escByte)) ∧
    ∀ frame, IsFrame frame → ∀ limit, (literals frame).length ≤ limit → ∀ escaped,
      ∃ m, decode ⟨limit, #[], escaped⟩ frame = (.ok [m], { limit := limit }) ∧
        encode m = frame := by
  have hinj : Set.InjOn encode { m | m ≠ [] } := by
    intro m _ m' _ h
    rw [← literals_encode m, h, literals_encode]
  have hsurj : Set.SurjOn encode { m | m ≠ [] } { frame | IsFrame frame } := by
    intro frame hframe
    obtain ⟨m, hm, rfl⟩ := exists_eq_encode hframe
    exact ⟨m, hm, rfl⟩
  refine ⟨⟨fun m hm => isFrame_encode hm, hinj, hsurj⟩, length_encode, ?_⟩
  intro frame hframe limit hfits escaped
  obtain ⟨m, hm, rfl⟩ := exists_eq_encode hframe
  rw [literals_encode] at hfits
  exact ⟨m, decode_encode_of_empty hm hfits escaped, rfl⟩

end SlipFramer

end Switchboard
