import Switchboard.Json.Lexical
import Switchboard.Json.Printer
import Switchboard.Proofs.Except
import Switchboard.Proofs.Text.Utf8

/-!
# Strings of documents

What is written for a string is read back as that string, character by character: a character that
is escaped comes back from its escape, and the bytes of any other are taken as they stand.
-/

namespace Switchboard.Json

open Utf8 (encodeChar encodeChars)

variable {bytes rest : Bytes}

/-- A byte that stands for itself inside a string. -/
def IsLiteral (b : UInt8) : Prop := b ≠ 0x22 ∧ b ≠ 0x5C ∧ ¬ b < 0x20

theorem isLiteral_of_le {b : UInt8} (h : 0x80 ≤ b.toNat) : IsLiteral b := by
  simp only [IsLiteral, ne_eq, ← UInt8.toNat_inj, UInt8.lt_iff_toNat_lt]
  simp
  omega

theorem stringBytes_literals {done bs rest : Bytes} (h : ∀ b ∈ bs, IsLiteral b) :
    stringBytes done (bs ++ rest) = stringBytes (bs.reverse ++ done) rest := by
  induction bs generalizing done with
  | nil => rfl
  | cons b bs ih =>
    obtain ⟨⟨hquote, hbackslash, hcontrol⟩, hbs⟩ := List.forall_mem_cons.1 h
    rw [List.cons_append, stringBytes, if_neg hquote, if_neg hbackslash, if_neg hcontrol, ih hbs]
    simp

theorem stringBytes_escape {done : Bytes} (bytes : Bytes) {c : Char} {size : Nat}
    (h : escape bytes = .ok (c, size)) :
    stringBytes done (0x5C :: bytes) =
      stringBytes ((encodeChar c).reverse ++ done) (bytes.drop size) := by
  rw [stringBytes, if_neg (by decide), if_pos rfl, h]

/-! ## Hexadecimal digits -/

theorem isLiteral_of_hexValue? {b : UInt8} {n : Nat} (h : hexValue? b = some n) : IsLiteral b := by
  simp only [hexValue?, UInt8.le_iff_toNat_le] at h
  simp only [IsLiteral, ne_eq, ← UInt8.toNat_inj, UInt8.lt_iff_toNat_lt]
  simp at h ⊢
  split at h
  · omega
  split at h
  · omega
  split at h
  · omega
  · cases h

theorem exists_hexDigit {n : Nat} (hn : n < 16) :
    ∃ b, encodeChar (hexDigit n) = [b] ∧ hexValue? b = some n := by
  have hall : ∀ n < 16, (encodeChar (hexDigit n)).map hexValue? = [some n] := by decide
  obtain ⟨b, hb, hvalue⟩ := List.map_eq_singleton_iff.1 (hall n hn)
  exact ⟨b, hb, hvalue⟩

/-- A control character comes back from its escape by code unit. -/
theorem escape_control {n : Nat} (hn : n < 0x20) (rest : Bytes) :
    ∃ a b, encodeChars [hexDigit (n / 16), hexDigit n] = [a, b] ∧
      escape (0x75 :: 0x30 :: 0x30 :: a :: b :: rest) = .ok (Char.ofNat n, 5) := by
  obtain ⟨a, ha, hhigh⟩ := exists_hexDigit (n := n / 16) (by omega)
  obtain ⟨b, hb, hlow⟩ := exists_hexDigit (n := n % 16) (by omega)
  have hmod : hexDigit n = hexDigit (n % 16) := by rw [hexDigit, hexDigit, Nat.mod_mod]
  have hzero : hexValue? 0x30 = some 0 := by decide
  refine ⟨a, b, by simp [encodeChars, ha, hmod, hb], ?_⟩
  have hunit : hexUnit (0x30 :: 0x30 :: a :: b :: rest) = .ok n := by
    simp only [hexUnit, hexValue4?, hzero, hhigh, hlow, Option.pure_def, Option.bind_eq_bind,
      Option.bind_some]
    congr 1
    omega
  have htrailing : isTrailing n = false := by
    simp [isTrailing]
    omega
  have hleading : isLeading n = false := by
    simp [isLeading]
    omega
  simp [escape, unicodeEscape, hunit, htrailing, hleading, bind, Except.bind, pure, Except.pure,
    Except.map]

/-! ## Characters -/

/-- The bytes of a character that is not escaped stand for themselves. -/
theorem isLiteral_of_mem_encodeChar {c : Char} (hquote : c ≠ '"') (hbackslash : c ≠ '\\')
    (hcontrol : ¬ c.toNat < 0x20) : ∀ b ∈ encodeChar c, IsLiteral b := by
  intro b hb
  by_cases hone : c.toNat < 0x80
  · rw [encodeChar, if_pos hone, List.mem_singleton] at hb
    have hn : b.toNat = c.toNat := by rw [hb, Utf8.toNat_ofNat_of_lt (by omega)]
    have hne (d : Char) (hd : c ≠ d) : c.toNat ≠ d.toNat := fun h => hd (Char.toNat_inj.1 h)
    simp only [IsLiteral, ne_eq, ← UInt8.toNat_inj, UInt8.lt_iff_toNat_lt, hn]
    exact ⟨hne _ hquote, hne _ hbackslash, hcontrol⟩
  · apply isLiteral_of_le
    have hc := Utf8.char_toNat_lt c
    simp only [encodeChar, if_neg hone] at hb
    split at hb
    · simp only [List.mem_cons, List.not_mem_nil, or_false] at hb
      rcases hb with rfl | rfl <;> rw [Utf8.toNat_ofNat_of_lt (by omega)] <;> omega
    · split at hb
      · simp only [List.mem_cons, List.not_mem_nil, or_false] at hb
        rcases hb with rfl | rfl | rfl <;> rw [Utf8.toNat_ofNat_of_lt (by omega)] <;> omega
      · simp only [List.mem_cons, List.not_mem_nil, or_false] at hb
        rcases hb with rfl | rfl | rfl | rfl <;> rw [Utf8.toNat_ofNat_of_lt (by omega)] <;> omega

/-- What is written for a character is read as that character. -/
theorem stringBytes_escapeChar (done : Bytes) (c : Char) (rest : Bytes) :
    stringBytes done (encodeChars (escapeChar c) ++ rest) =
      stringBytes ((encodeChar c).reverse ++ done) rest := by
  have hof {n : Nat} (hn : c.toNat = n) : Char.ofNat n = c := by rw [← hn, Char.ofNat_toNat]
  by_cases hquote : c = '"'
  · subst hquote
    exact stringBytes_escape (0x22 :: rest) rfl
  by_cases hbackslash : c = '\\'
  · subst hbackslash
    exact stringBytes_escape (0x5C :: rest) rfl
  simp only [escapeChar, hquote, hbackslash, if_false]
  by_cases h8 : c.toNat = 0x08
  · rw [if_pos h8, ← hof h8]
    exact stringBytes_escape (0x62 :: rest) rfl
  rw [if_neg h8]
  by_cases h9 : c.toNat = 0x09
  · rw [if_pos h9, ← hof h9]
    exact stringBytes_escape (0x74 :: rest) rfl
  rw [if_neg h9]
  by_cases h10 : c.toNat = 0x0A
  · rw [if_pos h10, ← hof h10]
    exact stringBytes_escape (0x6E :: rest) rfl
  rw [if_neg h10]
  by_cases h12 : c.toNat = 0x0C
  · rw [if_pos h12, ← hof h12]
    exact stringBytes_escape (0x66 :: rest) rfl
  rw [if_neg h12]
  by_cases h13 : c.toNat = 0x0D
  · rw [if_pos h13, ← hof h13]
    exact stringBytes_escape (0x72 :: rest) rfl
  rw [if_neg h13]
  by_cases hcontrol : c.toNat < 0x20
  · obtain ⟨a, b, hdigits, hescape⟩ := escape_control hcontrol rest
    have hbytes : encodeChars ['\\', 'u', '0', '0', hexDigit (c.toNat / 16), hexDigit c.toNat] =
        0x5C :: 0x75 :: 0x30 :: 0x30 :: [a, b] := by
      rw [← hdigits]
      rfl
    rw [hof rfl] at hescape
    rw [if_pos hcontrol, hbytes]
    exact stringBytes_escape _ hescape
  · rw [if_neg hcontrol, encodeChars, List.flatMap_singleton]
    exact stringBytes_literals (isLiteral_of_mem_encodeChar hquote hbackslash hcontrol)

theorem stringBytes_flatMap_escapeChar (done : Bytes) (cs : List Char) (rest : Bytes) :
    stringBytes done (encodeChars (cs.flatMap escapeChar) ++ 0x22 :: rest) =
      .ok (done.reverse ++ encodeChars cs, rest) := by
  induction cs generalizing done with
  | nil =>
    change stringBytes done (0x22 :: rest) = _
    rw [stringBytes, if_pos rfl]
    simp [encodeChars]
  | cons c cs ih =>
    rw [List.flatMap_cons, Utf8.encodeChars_append, List.append_assoc, stringBytes_escapeChar, ih,
      Utf8.encodeChars_cons]
    simp

/-! ## Strings -/

theorem encodeChars_writeString (s : String) (rest : Bytes) :
    encodeChars (writeString s) ++ rest =
      0x22 :: (encodeChars (s.toList.flatMap escapeChar) ++ 0x22 :: rest) := by
  rw [writeString, Utf8.encodeChars_cons, Utf8.encodeChars_append, List.append_assoc,
    List.append_assoc]
  rfl

/-- A string that has been written is read back, once its opening quote has been taken. -/
theorem readString_written (s : String) (rest : Bytes) :
    readString (encodeChars (s.toList.flatMap escapeChar) ++ 0x22 :: rest) = .ok (s, rest) := by
  have hdecode : Utf8.decode (encodeChars s.toList) = .ok s := Utf8.decode_eq_ok_iff.2 rfl
  simp [readString, stringBytes_flatMap_escapeChar, hdecode, bind, Except.bind, pure, Except.pure]

/-! ## What an escape has taken -/

theorem hexUnit_eq_ok {unit : Nat} (h : hexUnit bytes = .ok unit) :
    ∃ digits, bytes = digits ++ bytes.drop 4 ∧ digits.length = 4 ∧ ∀ b ∈ digits, IsLiteral b := by
  unfold hexUnit at h
  split at h
  · next a b c d rest =>
    refine ⟨[a, b, c, d], rfl, rfl, ?_⟩
    cases hvalue : hexValue4? a b c d with
    | none =>
      rw [hvalue] at h
      cases h
    | some unit' =>
      simp only [hexValue4?, Option.bind_eq_bind, Option.bind_eq_some_iff] at hvalue
      obtain ⟨va, ha, vb, hb, vc, hc, vd, hd, -⟩ := hvalue
      simp only [List.forall_mem_cons, isLiteral_of_hexValue? ha, isLiteral_of_hexValue? hb,
        isLiteral_of_hexValue? hc, isLiteral_of_hexValue? hd]
      simp
  · cases h

theorem unicodeEscape_eq_ok {c : Char} {size : Nat} (h : unicodeEscape bytes = .ok (c, size)) :
    ∃ unit, hexUnit bytes = .ok unit ∧
      (size = 4 ∨ size = 10 ∧ ∃ more second, bytes.drop 4 = 0x5C :: 0x75 :: more ∧
        hexUnit more = .ok second) := by
  obtain ⟨unit, hunit, h⟩ := Except.exists_of_bind_eq_ok h
  refine ⟨unit, hunit, ?_⟩
  split at h
  · cases h
  split at h
  · exact .inl (Prod.mk.inj (Except.ok.inj h)).2.symm
  dsimp only at h
  split at h
  · cases h
  · cases h
  · next more hrest =>
    obtain ⟨second, hsecond, h⟩ := Except.exists_of_bind_eq_ok h
    split at h
    · exact .inr ⟨(Prod.mk.inj (Except.ok.inj h)).2.symm, more, second, hrest, hsecond⟩
    · cases h
  · cases h
  · cases h

/-- An escape is one byte after the backslash, or one code unit, or two of them. -/
theorem escape_eq_ok {c : Char} {size : Nat} (h : escape bytes = .ok (c, size)) :
    (∃ b tail, bytes = b :: tail ∧ b ≠ 0x75 ∧ size = 1) ∨
      ∃ tail unit, bytes = 0x75 :: tail ∧ hexUnit tail = .ok unit ∧
        (size = 5 ∨ size = 11 ∧ ∃ more second, tail.drop 4 = 0x5C :: 0x75 :: more ∧
          hexUnit more = .ok second) := by
  cases bytes with
  | nil => cases h
  | cons b tail =>
    by_cases hb : b = 0x75
    · subst hb
      obtain ⟨⟨c', size'⟩, hescape, hsize⟩ := Except.map_eq_ok_iff.1 h
      obtain ⟨unit, hunit, hshape⟩ := unicodeEscape_eq_ok hescape
      obtain rfl := (Prod.mk.inj hsize).2
      refine .inr ⟨tail, unit, rfl, hunit, ?_⟩
      rcases hshape with rfl | ⟨rfl, hmore⟩
      · exact .inl rfl
      · exact .inr ⟨rfl, hmore⟩
    · refine .inl ⟨b, tail, rfl, hb, ?_⟩
      rw [escape] at h
      iterate 8
        split at h
        · exact (Prod.mk.inj (Except.ok.inj h)).2.symm
      cases h

end Switchboard.Json
