import Switchboard.Proofs.Json.Accepted
import Switchboard.Proofs.Json.Strings

/-!
# The numbers that stand in a document

The numbers of a document can be told without reading it as a value: outside of strings, a number is
a run of the bytes that numbers are made of, from a digit or a minus on. Where each of them spells
an integer of 64 bits, every number that is read is such an integer.
-/

namespace Switchboard.Json

/-- The bytes after a string whose opening quote has been taken; `escaped` says that a backslash
has just been. -/
def afterString : (escaped : Bool) → Bytes → Bytes
  | _, [] => []
  | true, _ :: rest => afterString false rest
  | false, b :: rest => if b = 0x22 then rest else afterString (b == 0x5C) rest

theorem length_afterString_le (escaped : Bool) (bytes : Bytes) :
    (afterString escaped bytes).length ≤ bytes.length := by
  induction bytes generalizing escaped with
  | nil => cases escaped <;> simp [afterString]
  | cons b rest ih =>
    cases escaped with
    | true => exact Nat.le_succ_of_le (ih false)
    | false =>
      rw [afterString]
      split
      · exact Nat.le_succ _
      · exact Nat.le_succ_of_le (ih _)

/-- The numbers that stand in a document, as they are spelled. -/
def numerals : Bytes → List Bytes
  | [] => []
  | b :: rest =>
    if b = 0x22 then numerals (afterString false rest)
    else if b = 0x2D ∨ isDigit b then
      (b :: rest.takeWhile isNumeral) :: numerals (rest.dropWhile isNumeral)
    else numerals rest
termination_by bytes => bytes.length
decreasing_by
  · exact Nat.lt_succ_of_le (length_afterString_le false rest)
  · exact Nat.lt_succ_of_le ((List.dropWhile_suffix isNumeral).length_le)
  · exact Nat.lt_succ_self _

/-- The spelling of an integer of 64 bits: digits, and a minus before them if it is negative. -/
def SpellsLong : Bytes → Prop
  | 0x2D :: digits =>
    (∀ b ∈ digits, isDigit b = true) ∧ 0 < digitsValue 0 digits ∧
      digitsValue 0 digits ≤ 0x8000000000000000
  | digits => (∀ b ∈ digits, isDigit b = true) ∧ digitsValue 0 digits < 0x10000000000000000

/-- A document without fractions, exponents, negative zeros and integers of more than 64 bits. -/
def IntegersOnly (document : Bytes) : Prop := ∀ spelling ∈ numerals document, SpellsLong spelling

variable {bytes rest : Bytes}

/-! ## Strings -/

theorem afterString_literals {bs : Bytes} (h : ∀ b ∈ bs, IsLiteral b) (rest : Bytes) :
    afterString false (bs ++ rest) = afterString false rest := by
  induction bs with
  | nil => rfl
  | cons b bs ih =>
    obtain ⟨⟨hquote, hbackslash, -⟩, hbs⟩ := List.forall_mem_cons.1 h
    rw [List.cons_append, afterString, if_neg hquote, beq_false_of_ne hbackslash, ih hbs]

theorem afterString_hexUnit {unit : Nat} (h : hexUnit bytes = .ok unit) :
    afterString false bytes = afterString false (bytes.drop 4) := by
  obtain ⟨digits, hbytes, -, hdigits⟩ := hexUnit_eq_ok h
  rw [hbytes, afterString_literals hdigits, ← hbytes]

/-- An escape is passed over as it is read. -/
theorem afterString_escape {c : Char} {size : Nat} (h : escape bytes = .ok (c, size)) :
    afterString true bytes = afterString false (bytes.drop size) := by
  rcases escape_eq_ok h with ⟨b, tail, rfl, -, rfl⟩ | ⟨tail, unit, rfl, hunit, hsize⟩
  · rfl
  · rw [afterString, afterString_hexUnit hunit]
    rcases hsize with rfl | ⟨rfl, more, second, hmore, hsecond⟩
    · rfl
    · have hdrop : (0x75 :: tail).drop 11 = more.drop 4 := by
        change tail.drop 10 = _
        rw [show 10 = 4 + 6 from rfl, ← List.drop_drop, hmore]
        rfl
      rw [hmore, hdrop, ← afterString_hexUnit hsecond]
      rfl

theorem afterString_stringBytes {done content : Bytes}
    (h : stringBytes done bytes = .ok (content, rest)) : afterString false bytes = rest := by
  fun_induction stringBytes done bytes with
  | case1 => cases h
  | case2 done tail =>
    obtain ⟨-, rfl⟩ := Prod.mk.inj (Except.ok.inj h)
    rfl
  | case3 => cases h
  | case4 done tail c size hescape hquote ih =>
    rw [afterString, if_neg hquote]
    exact (afterString_escape hescape).trans (ih h)
  | case5 => cases h
  | case6 done b tail hquote hbackslash hcontrol ih =>
    rw [afterString, if_neg hquote, beq_false_of_ne hbackslash]
    exact ih h

theorem afterString_readString {s : String} (h : readString bytes = .ok (s, rest)) :
    afterString false bytes = rest := by
  obtain ⟨⟨content, after⟩, hcontent, h⟩ := Except.exists_of_bind_eq_ok h
  have hafter := afterString_stringBytes hcontent
  dsimp only at h
  split at h
  · obtain ⟨-, rfl⟩ := Prod.mk.inj (Except.ok.inj h)
    exact hafter
  · cases h

/-! ## Numbers -/

theorem numerals_quote (rest : Bytes) :
    numerals (0x22 :: rest) = numerals (afterString false rest) := by
  rw [numerals, if_pos rfl]

theorem numerals_number {b : UInt8} (hb : b = 0x2D ∨ isDigit b = true) (rest : Bytes) :
    numerals (b :: rest) =
      (b :: rest.takeWhile isNumeral) :: numerals (rest.dropWhile isNumeral) := by
  have hquote : b ≠ 0x22 := by
    rintro rfl
    rcases hb with hb | hb <;> cases hb
  rw [numerals, if_neg hquote, if_pos hb]

theorem numerals_other {b : UInt8} (hquote : b ≠ 0x22) (hminus : b ≠ 0x2D)
    (hdigit : isDigit b = false) (rest : Bytes) : numerals (b :: rest) = numerals rest := by
  rw [numerals, if_neg hquote, if_neg (by simp [hminus, hdigit])]

theorem endsNumber_dropWhile (bytes : Bytes) : EndsNumber (bytes.dropWhile isNumeral) := by
  intro b hb
  have hnot := List.head?_dropWhile_not isNumeral bytes
  rw [Option.mem_def.1 hb] at hnot
  exact hnot

/-- Digits that are read spell no number with a zero in front. -/
theorem eq_zero_of_readNumber {negative : Bool} {digits : Bytes} {n : JsonNumber}
    (h : readNumber negative (digits ++ bytes) = .ok (n, rest))
    (hdigits : ∀ b ∈ digits, isDigit b = true) (hfirst : digits.head? = some 0x30) :
    digits = [0x30] := by
  cases digits with
  | nil => cases hfirst
  | cons b digits =>
    obtain rfl := Option.some.inj hfirst
    cases digits with
    | nil => rfl
    | cons c digits =>
      have hc : isDigit c = true := hdigits c (by simp)
      simp [readNumber, startsWithDigit, hc] at h

theorem isNumeral_of_isDigit {b : UInt8} (hb : isDigit b = true) : isNumeral b = true := by
  simp [isNumeral, hb]

/-- A run of digits is read up to its end. -/
theorem readNumber_run {negative : Bool} {n : JsonNumber}
    (h : readNumber negative bytes = .ok (n, rest))
    (hdigits : ∀ b ∈ bytes.takeWhile isNumeral, isDigit b = true)
    (hlt : digitsValue 0 (bytes.takeWhile isNumeral) < 0x10000000000000000) :
    n = integerNumber negative (digitsValue 0 (bytes.takeWhile isNumeral)) ∧
      rest = bytes.dropWhile isNumeral := by
  have hsplit := List.takeWhile_append_dropWhile (p := isNumeral) (l := bytes)
  have hne : bytes.takeWhile isNumeral ≠ [] := by
    intro hnil
    cases bytes with
    | nil => cases h
    | cons b tail =>
      have hdigit : isDigit b = false := by
        by_contra hdigit
        have hb := isNumeral_of_isDigit (by simpa using hdigit)
        rw [List.takeWhile_cons, if_pos hb] at hnil
        cases hnil
      have hzero : b ≠ 0x30 := by
        rintro rfl
        cases hdigit
      simp [readNumber, hzero, hdigit] at h
  rw [← hsplit] at h
  have hread := readNumber_digits negative hdigits hne (eq_zero_of_readNumber h hdigits) hlt
    (endsNumber_dropWhile bytes)
  obtain ⟨rfl, rfl⟩ := Prod.mk.inj (Except.ok.inj (h.symm.trans hread))
  exact ⟨rfl, rfl⟩

/-- Of a document whose numbers are integers of 64 bits this lasts, and the numbers that are read
are such integers. -/
theorem lasts_integersOnly : Lasts IntegersOnly JsonNumber.Exact where
  byte b rest hquote hminus hdigit h := by
    rw [IntegersOnly, numerals_other hquote hminus hdigit] at h
    exact h
  string tail s rest h hstring := by
    rw [IntegersOnly, numerals_quote, afterString_readString hstring] at h
    exact h
  negative tail n rest h hnumber := by
    rw [IntegersOnly, numerals_number (.inl rfl)] at h
    obtain ⟨⟨hdigits, hpos, hle⟩, hafter⟩ := List.forall_mem_cons.1 h
    obtain ⟨rfl, rfl⟩ := readNumber_run hnumber hdigits (by omega)
    refine ⟨?_, hafter⟩
    rw [integerNumber, if_neg (by decide), if_pos ⟨hpos, hle⟩]
    exact ⟨by omega, by omega⟩
  digits b tail n rest hb h hnumber := by
    have htake : (b :: tail).takeWhile isNumeral = b :: tail.takeWhile isNumeral := by
      rw [List.takeWhile_cons, if_pos (isNumeral_of_isDigit hb)]
    have hdrop : (b :: tail).dropWhile isNumeral = tail.dropWhile isNumeral := by
      rw [List.dropWhile_cons, if_pos (isNumeral_of_isDigit hb)]
    rw [IntegersOnly, numerals_number (.inr hb), ← htake, ← hdrop] at h
    obtain ⟨hspelling, hafter⟩ := List.forall_mem_cons.1 h
    rw [htake, SpellsLong.eq_2 _ fun digits hdigits => ?_, ← htake] at hspelling
    · obtain ⟨hdigits, hlt⟩ := hspelling
      obtain ⟨rfl, rfl⟩ := readNumber_run hnumber hdigits hlt
      exact ⟨⟨by omega, by omega⟩, hafter⟩
    · obtain rfl := (List.cons.inj hdigits).1
      cases hb

/-- **Where every number of a document spells an integer of 64 bits, every number that is read is
such an integer.** -/
theorem wellFormed_of_integersOnly {document : Bytes} {v : Json} (h : IntegersOnly document)
    (hread : read document = .ok v) : WellFormed JsonNumber.Exact v ∧ v.depth ≤ maxDepth := by
  obtain ⟨rest, hvalue, -⟩ := exists_of_readDocument hread
  exact (lasts_integersOnly.value hvalue h).1

end Switchboard.Json
