import Mathlib.Order.Bounds.Basic
import Switchboard.Proofs.Text.Utf8

/-!
# Well-formed UTF-8

The sequences of the grammar are the encodings of single scalar values, so that well-formed text is
what encodes a text. A byte string that is not well-formed is an encoded text followed by bytes that
begin with no scalar value: strict decoding names the length of the encoded text, which is the
longest well-formed prefix, and lossy decoding writes that text and then U+FFFD.
-/

namespace Switchboard.Utf8

/-! ## The grammar -/

theorem sequence_encodeChar (ch : Char) : Sequence (encodeChar ch) := by
  have hch := char_toNat_lt ch
  unfold encodeChar
  generalize ch.toNat = n at hch ⊢
  by_cases h1 : n < 0x80
  · simp only [if_pos h1]
    have ha := toNat_ofNat_of_lt (show n < 256 by omega)
    exact .one (by omega)
  · by_cases h2 : n < 0x800
    · simp only [if_neg h1, if_pos h2]
      have ha := toNat_ofNat_of_lt (show 0xC0 + n / 64 < 256 by omega)
      have hb := toNat_ofNat_of_lt (show 0x80 + n % 64 < 256 by omega)
      exact .two (by omega) (by omega) ⟨by omega, by omega⟩
    · by_cases h3 : n < 0x10000
      · simp only [if_neg h1, if_neg h2, if_pos h3]
        have ha := toNat_ofNat_of_lt (show 0xE0 + n / 4096 < 256 by omega)
        have hb := toNat_ofNat_of_lt (show 0x80 + n / 64 % 64 < 256 by omega)
        have hc := toNat_ofNat_of_lt (show 0x80 + n % 64 < 256 by omega)
        have hlast : IsContinuation (UInt8.ofNat (0x80 + n % 64)) := ⟨by omega, by omega⟩
        by_cases hlow : n < 0x1000
        · exact .threeLow (by omega) (by omega) (by omega) hlast
        · by_cases hhigh : 0xD000 ≤ n ∧ n < 0xE000
          · exact .threeHigh (by omega) (by omega) (by omega) hlast
          · exact .three (by omega) ⟨by omega, by omega⟩ hlast
      · simp only [if_neg h1, if_neg h2, if_neg h3]
        have ha := toNat_ofNat_of_lt (show 0xF0 + n / 262144 < 256 by omega)
        have hb := toNat_ofNat_of_lt (show 0x80 + n / 4096 % 64 < 256 by omega)
        have hc := toNat_ofNat_of_lt (show 0x80 + n / 64 % 64 < 256 by omega)
        have hd := toNat_ofNat_of_lt (show 0x80 + n % 64 < 256 by omega)
        have hthird : IsContinuation (UInt8.ofNat (0x80 + n / 64 % 64)) := ⟨by omega, by omega⟩
        have hlast : IsContinuation (UInt8.ofNat (0x80 + n % 64)) := ⟨by omega, by omega⟩
        by_cases hlow : n < 0x40000
        · exact .fourLow (by omega) (by omega) (by omega) hthird hlast
        · by_cases hhigh : 0x100000 ≤ n
          · exact .fourHigh (by omega) (by omega) (by omega) hthird hlast
          · exact .four (by omega) (by omega) ⟨by omega, by omega⟩ hthird hlast

theorem Sequence.exists_eq_encodeChar {s : Bytes} (h : Sequence s) : ∃ ch, s = encodeChar ch := by
  cases h with
  | one ha => exact ⟨_, (encodeChar_one (by omega)).symm⟩
  | two ha ha' hb => exact ⟨_, (encodeChar_two ha (by omega) hb).symm⟩
  | threeLow ha hb hb' hc =>
    exact ⟨_, (encodeChar_three (by omega) (by omega) ⟨by omega, by omega, by omega, by omega⟩
      hc).symm⟩
  | three ha hb hc =>
    obtain ⟨hlow, hhigh⟩ := hb
    exact ⟨_, (encodeChar_three (by omega) (by omega) ⟨by omega, by omega, by omega, by omega⟩
      hc).symm⟩
  | threeHigh ha hb hb' hc =>
    exact ⟨_, (encodeChar_three (by omega) (by omega) ⟨by omega, by omega, by omega, by omega⟩
      hc).symm⟩
  | fourLow ha hb hb' hc hd =>
    exact ⟨_, (encodeChar_four (by omega) (by omega) ⟨by omega, by omega, by omega, by omega⟩
      hc hd).symm⟩
  | four ha ha' hb hc hd =>
    obtain ⟨hlow, hhigh⟩ := hb
    exact ⟨_, (encodeChar_four (by omega) (by omega) ⟨by omega, by omega, by omega, by omega⟩
      hc hd).symm⟩
  | fourHigh ha hb hb' hc hd =>
    exact ⟨_, (encodeChar_four (by omega) (by omega) ⟨by omega, by omega, by omega, by omega⟩
      hc hd).symm⟩

theorem wellFormed_encodeChars (cs : List Char) : WellFormed (encodeChars cs) := by
  induction cs with
  | nil => exact .nil
  | cons ch cs ih =>
    rw [encodeChars_cons]
    exact .cons (sequence_encodeChar ch) ih

theorem WellFormed.exists_eq_encodeChars {bytes : Bytes} (h : WellFormed bytes) :
    ∃ cs, bytes = encodeChars cs := by
  induction h with
  | nil => exact ⟨[], rfl⟩
  | cons hs _ ih =>
    obtain ⟨ch, rfl⟩ := hs.exists_eq_encodeChar
    obtain ⟨cs, rfl⟩ := ih
    exact ⟨ch :: cs, (encodeChars_cons ch cs).symm⟩

/-- Well-formed text is what encodes a text. -/
theorem wellFormed_iff {bytes : Bytes} : WellFormed bytes ↔ ∃ s, bytes = encode s := by
  constructor
  · intro h
    obtain ⟨cs, rfl⟩ := h.exists_eq_encodeChars
    exact ⟨String.ofList cs, by rw [encode, String.toList_ofList]⟩
  · rintro ⟨s, rfl⟩
    exact wellFormed_encodeChars s.toList

/-! ## Where a text stops -/

/-- The bytes begin with no scalar value: with an ill-formed stretch of `size` bytes and then `after`,
or with a sequence that the end cuts short. -/
inductive Stuck : Bytes → Option Nat → Bytes → Prop where
  | broken {b : UInt8} {rest after : Bytes} {size : Nat} (h : front b rest = .broken size after) :
      Stuck (b :: rest) (some size) after
  | cut {b : UInt8} {rest : Bytes} (h : front b rest = .cut) : Stuck (b :: rest) none []

variable {tail after : Bytes} {size : Option Nat}

theorem Stuck.ne_encodeChar_append (h : Stuck tail size after) (ch : Char) (rest : Bytes) :
    tail ≠ encodeChar ch ++ rest := by
  intro heq
  obtain ⟨b, tail', hbytes, hfront⟩ := front_encodeChar ch rest
  cases h with
  | broken hbroken =>
    obtain ⟨rfl, rfl⟩ := List.cons.inj (heq.trans hbytes)
    nomatch hbroken.symm.trans hfront
  | cut hcut =>
    obtain ⟨rfl, rfl⟩ := List.cons.inj (heq.trans hbytes)
    nomatch hcut.symm.trans hfront

theorem decodeFrom_of_scalar {b : UInt8} {rest rest' : Bytes} {ch : Char}
    (h : front b rest = .scalar ch rest') (index : Nat) (done : List Char) :
    decodeFrom index done (b :: rest) = decodeFrom (index + ch.utf8Size) (ch :: done) rest' := by
  rw [decodeFrom]
  split
  · next hfront =>
    obtain ⟨rfl, rfl⟩ := Front.scalar.inj (h.symm.trans hfront)
    rfl
  · next hfront => cases h.symm.trans hfront
  · next hfront => cases h.symm.trans hfront

theorem decodeFrom_of_stuck (h : Stuck tail size after) (index : Nat) (done : List Char) :
    decodeFrom index done tail = .error ⟨index, size⟩ := by
  cases h with
  | broken hbroken =>
    rw [decodeFrom]
    split
    · next hfront => cases hbroken.symm.trans hfront
    · next hfront =>
      obtain ⟨rfl, rfl⟩ := Front.broken.inj (hbroken.symm.trans hfront)
      rfl
    · next hfront => cases hbroken.symm.trans hfront
  | cut hcut =>
    rw [decodeFrom]
    split
    · next hfront => cases hcut.symm.trans hfront
    · next hfront => cases hcut.symm.trans hfront
    · rfl

/-- Strict decoding fails after the scalar values in front, at bytes that begin with none. -/
theorem exists_stuck_of_decodeFrom {index : Nat} {done : List Char} {bytes : Bytes}
    {malformed : Malformed} (h : decodeFrom index done bytes = .error malformed) :
    ∃ new tail after, bytes = encodeChars new ++ tail ∧
      malformed.index = index + (encodeChars new).length ∧ Stuck tail malformed.size after := by
  induction index, done, bytes using decodeFrom.induct with
  | case1 index done =>
    rw [decodeFrom] at h
    cases h
  | case2 index done b rest ch rest' hfront ih =>
    rw [decodeFrom_of_scalar hfront] at h
    obtain ⟨new, tail, after, rfl, hindex, hstuck⟩ := ih h
    refine ⟨ch :: new, tail, after, ?_, ?_, hstuck⟩
    · rw [eq_append_of_front hfront, encodeChars_cons, List.append_assoc]
    · rw [hindex, encodeChars_cons, List.length_append, length_encodeChar, Nat.add_assoc]
  | case3 index done b rest size after hfront =>
    have hstuck : Stuck (b :: rest) (some size) after := .broken hfront
    rw [decodeFrom_of_stuck hstuck] at h
    obtain rfl := Except.error.inj h
    exact ⟨[], b :: rest, after, rfl, rfl, hstuck⟩
  | case4 index done b rest hfront =>
    have hstuck : Stuck (b :: rest) none [] := .cut hfront
    rw [decodeFrom_of_stuck hstuck] at h
    obtain rfl := Except.error.inj h
    exact ⟨[], b :: rest, [], rfl, rfl, hstuck⟩

/-- No more of the bytes is well-formed than the text in front of those that begin with no scalar
value. -/
theorem Stuck.isGreatest (h : Stuck tail size after) (cs : List Char) :
    IsGreatest {n | n ≤ (encodeChars cs ++ tail).length ∧
      WellFormed ((encodeChars cs ++ tail).take n)} (encodeChars cs).length := by
  constructor
  · refine ⟨by rw [List.length_append]; omega, ?_⟩
    rw [List.take_left]
    exact wellFormed_encodeChars cs
  · rintro n ⟨hn, hwell⟩
    by_contra hlt
    rw [not_le] at hlt
    obtain ⟨ds, hds⟩ := hwell.exists_eq_encodeChars
    rw [List.take_append, List.take_of_length_le hlt.le] at hds
    obtain ⟨back, -, hback⟩ := exists_append_of_encodeChars_append hds
    cases back with
    | nil =>
      have hlength : (tail.take (n - (encodeChars cs).length)).length = 0 := by
        rw [hback]
        rfl
      rw [List.length_append] at hn
      rw [List.length_take] at hlength
      omega
    | cons ch back =>
      apply h.ne_encodeChar_append ch (encodeChars back ++ tail.drop (n - (encodeChars cs).length))
      rw [← List.append_assoc, ← encodeChars_cons, ← hback, List.take_append_drop]

/-- An ill-formed stretch is as long as its size says. -/
theorem continuation_eq_broken {more : Nat} {low high : UInt8} {code start size : Nat}
    {bytes after : Bytes} (h : continuation more low high code start bytes = .broken size after) :
    ∃ read, bytes = read ++ after ∧ size = start + read.length := by
  induction more generalizing low high code start bytes with
  | zero => nomatch h
  | succ more ih =>
    cases bytes with
    | nil => nomatch h
    | cons b rest =>
      rw [continuation_cons] at h
      split at h
      · obtain ⟨read, rfl, rfl⟩ := ih h
        exact ⟨b :: read, rfl, by rw [List.length_cons]; omega⟩
      · obtain ⟨rfl, rfl⟩ := Front.broken.inj h
        exact ⟨[], rfl, rfl⟩

theorem front_eq_broken {b : UInt8} {rest after : Bytes} {size : Nat}
    (h : front b rest = .broken size after) : after = (b :: rest).drop size := by
  rw [front_eq] at h
  split at h
  · nomatch h
  · split at h
    · obtain ⟨read, rfl, rfl⟩ := continuation_eq_broken h
      rw [Nat.add_comm, List.drop_succ_cons, List.drop_left]
    · obtain ⟨rfl, rfl⟩ := Front.broken.inj h
      rfl

/-- What follows the bytes that begin with no scalar value. -/
def skipStuck (size : Option Nat) (tail : Bytes) : Bytes :=
  match size with
  | some size => tail.drop size
  | none => []

theorem Stuck.after_eq (h : Stuck tail size after) : after = skipStuck size tail := by
  cases h with
  | broken hbroken => exact front_eq_broken hbroken
  | cut => rfl

/-! ## Lossy decoding -/

theorem decodeLossyFrom_of_scalar {b : UInt8} {rest rest' : Bytes} {ch : Char}
    (h : front b rest = .scalar ch rest') (done : List Char) :
    decodeLossyFrom done (b :: rest) = decodeLossyFrom (ch :: done) rest' := by
  rw [decodeLossyFrom]
  split
  · next hfront =>
    obtain ⟨rfl, rfl⟩ := Front.scalar.inj (h.symm.trans hfront)
    rfl
  · next hfront => cases h.symm.trans hfront
  · next hfront => cases h.symm.trans hfront

/-- U+FFFD stands for the bytes that begin with no scalar value. -/
theorem decodeLossyFrom_of_stuck (h : Stuck tail size after) (done : List Char) :
    decodeLossyFrom done tail = decodeLossyFrom (replacement :: done) after := by
  cases h with
  | broken hbroken =>
    rw [decodeLossyFrom]
    split
    · next hfront => cases hbroken.symm.trans hfront
    · next hfront =>
      obtain ⟨rfl, rfl⟩ := Front.broken.inj (hbroken.symm.trans hfront)
      rfl
    · next hfront => cases hbroken.symm.trans hfront
  | cut hcut =>
    rw [decodeLossyFrom, decodeLossyFrom]
    split
    · next hfront => cases hcut.symm.trans hfront
    · next hfront => cases hcut.symm.trans hfront
    · rfl

theorem decodeLossyFrom_append (done before : List Char) (bytes : Bytes) :
    decodeLossyFrom (done ++ before) bytes = before.reverse ++ decodeLossyFrom done bytes := by
  induction done, bytes using decodeLossyFrom.induct with
  | case1 done => simp [decodeLossyFrom]
  | case2 done b rest ch rest' hfront ih =>
    rw [decodeLossyFrom_of_scalar hfront, decodeLossyFrom_of_scalar hfront, ← ih, List.cons_append]
  | case3 done b rest size after hfront ih =>
    have hstuck : Stuck (b :: rest) (some size) after := .broken hfront
    rw [decodeLossyFrom_of_stuck hstuck, decodeLossyFrom_of_stuck hstuck, ← ih, List.cons_append]
  | case4 done b rest hfront =>
    have hstuck : Stuck (b :: rest) none [] := .cut hfront
    rw [decodeLossyFrom_of_stuck hstuck, decodeLossyFrom_of_stuck hstuck]
    simp [decodeLossyFrom]

theorem decodeLossyFrom_encodeChars (cs : List Char) (tail : Bytes) :
    decodeLossyFrom [] (encodeChars cs ++ tail) = cs ++ decodeLossyFrom [] tail := by
  induction cs with
  | nil => rfl
  | cons ch cs ih =>
    obtain ⟨b, rest, hbytes, hfront⟩ := front_encodeChar ch (encodeChars cs ++ tail)
    rw [encodeChars_cons, List.append_assoc, hbytes, decodeLossyFrom_of_scalar hfront]
    have happend := decodeLossyFrom_append [] [ch] (encodeChars cs ++ tail)
    rw [List.nil_append] at happend
    rw [happend, ih]
    rfl

/-- Lossy decoding of text is strict decoding. -/
theorem decodeLossy_encode (s : String) : decodeLossy (encode s) = s := by
  have h := decodeLossyFrom_encodeChars s.toList []
  rw [List.append_nil, decodeLossyFrom, List.reverse_nil, List.append_nil] at h
  rw [decodeLossy, encode, h, String.ofList_toList]

/-- Lossy decoding writes the text in front of bytes that begin with no scalar value, then U+FFFD,
then what it writes for what follows them. -/
theorem decodeLossy_of_stuck (h : Stuck tail size after) (cs : List Char) :
    decodeLossy (encodeChars cs ++ tail) =
      String.ofList cs ++ "\uFFFD" ++ decodeLossy (skipStuck size tail) := by
  have hreplaced := decodeLossyFrom_append [] [replacement] after
  rw [List.nil_append] at hreplaced
  have hchars : decodeLossyFrom [] (encodeChars cs ++ tail) =
      cs ++ [replacement] ++ decodeLossyFrom [] after := by
    rw [decodeLossyFrom_encodeChars, decodeLossyFrom_of_stuck h, hreplaced, List.append_assoc]
    rfl
  unfold decodeLossy
  rw [hchars, ← h.after_eq, String.ofList_append, String.ofList_append]
  rfl

end Switchboard.Utf8
