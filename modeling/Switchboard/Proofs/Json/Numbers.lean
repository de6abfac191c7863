import Switchboard.Json.Lexical
import Switchboard.Json.Printer
import Switchboard.Proofs.Json.Shape
import Switchboard.Proofs.Text.Utf8

/-!
# Numbers of documents

Digits without a fraction and an exponent are read as the integer that they spell when it has at
most 64 bits; whatever else is read is a double. What is written for an integer of 64 bits is made
of such digits, so that it is read back.
-/

namespace Switchboard.Json

open Utf8 (encodeChar encodeChars)

/-! ## Digits -/

/-- The number that digits spell after those of `value`. -/
def digitsValue (value : Nat) (digits : Bytes) : Nat :=
  digits.foldl (fun value b => value * 10 + digitValue b) value

/-- The bytes that a number is made of. -/
def isNumeral (b : UInt8) : Bool :=
  isDigit b || b == 0x2D || b == 0x2B || b == 0x2E || b == 0x65 || b == 0x45

/-- The bytes do not go on with a number. -/
def EndsNumber (rest : Bytes) : Prop := ∀ b ∈ rest.head?, isNumeral b = false

variable {b : UInt8} {bytes digits rest : Bytes} {value count : Nat} {n : JsonNumber}

theorem isDigit_iff : isDigit b = true ↔ 0x30 ≤ b.toNat ∧ b.toNat ≤ 0x39 := by
  simp only [isDigit, UInt8.le_iff_toNat_le, Bool.and_eq_true, decide_eq_true_eq]
  rfl

/-- A digit is no other byte. -/
theorem ne_of_isDigit (hb : isDigit b = true) {c : UInt8} (hc : isDigit c = false) : b ≠ c := by
  rintro rfl
  rw [hb] at hc
  cases hc

theorem le_digitsValue (value : Nat) (digits : Bytes) : value ≤ digitsValue value digits := by
  induction digits generalizing value with
  | nil => exact Nat.le_refl _
  | cons b digits ih =>
    have h := ih (value * 10 + digitValue b)
    simp only [digitsValue, List.foldl_cons] at h ⊢
    omega

theorem EndsNumber.startsWithDigit (h : EndsNumber rest) : startsWithDigit rest = false := by
  cases rest with
  | nil => rfl
  | cons b rest =>
    have hb := h b rfl
    simp only [isNumeral, Bool.or_eq_false_iff] at hb
    exact hb.1.1.1.1.1

theorem keepDigits_append (hdigits : ∀ b ∈ digits, isDigit b = true) (hrest : EndsNumber rest)
    (hlt : digitsValue value digits < 0x10000000000000000) :
    keepDigits value count (digits ++ rest) =
      (digitsValue value digits, count + digits.length, rest) := by
  induction digits generalizing value count with
  | nil =>
    cases rest with
    | nil => rfl
    | cons b rest =>
      have hb : isDigit b = false := hrest.startsWithDigit
      simp [keepDigits, hb, digitsValue]
  | cons b digits ih =>
    obtain ⟨hb, hdigits⟩ := List.forall_mem_cons.1 hdigits
    have hle := le_digitsValue (value * 10 + digitValue b) digits
    have hkept : value * 10 + digitValue b < 0x10000000000000000 := Nat.lt_of_le_of_lt hle hlt
    rw [List.cons_append, keepDigits, if_pos ⟨hb, hkept⟩, ih hdigits hlt, List.length_cons]
    simp only [digitsValue, List.foldl_cons, Prod.mk.injEq, and_true, true_and]
    omega

/-- What an integer without its sign is read as. -/
def integerNumber (negative : Bool) (value : Nat) : JsonNumber :=
  if !negative then .integer value
  else if 1 ≤ value ∧ value ≤ 0x8000000000000000 then .integer (-value)
  else floatNumber true (Binary64.ofInt value)

theorem readAfterInteger_of_endsNumber (negative : Bool) (value : Nat) (hrest : EndsNumber rest) :
    readAfterInteger negative value false 0 rest = .ok (integerNumber negative value, rest) := by
  have hexponent : startsExponent rest = false := by
    cases rest with
    | nil => rfl
    | cons b rest =>
      have hb := hrest b rfl
      simp [isNumeral] at hb
      simp [startsExponent, hb]
  unfold readAfterInteger
  split
  · next more => exact absurd (hrest 0x2E rfl) (by decide)
  · simp only [hexponent, integerNumber]
    cases negative with
    | false => simp
    | true =>
      by_cases hvalue : 1 ≤ value ∧ value ≤ 0x8000000000000000
      · simp [hvalue]
      · simp [hvalue]

/-- Digits that spell a number of 64 bits are read as that number. -/
theorem readNumber_digits (negative : Bool) (hdigits : ∀ b ∈ digits, isDigit b = true)
    (hne : digits ≠ []) (hzero : digits.head? = some 0x30 → digits = [0x30])
    (hlt : digitsValue 0 digits < 0x10000000000000000) (hrest : EndsNumber rest) :
    readNumber negative (digits ++ rest) =
      .ok (integerNumber negative (digitsValue 0 digits), rest) := by
  cases digits with
  | nil => exact absurd rfl hne
  | cons b digits =>
    obtain ⟨hb, hdigits⟩ := List.forall_mem_cons.1 hdigits
    by_cases hfirst : b = 0x30
    · subst hfirst
      obtain rfl := (List.cons.inj (hzero rfl)).2
      rw [List.cons_append, readNumber, if_pos rfl, List.nil_append, hrest.startsWithDigit]
      exact readAfterInteger_of_endsNumber negative 0 hrest
    · have hvalue : digitsValue 0 (b :: digits) = digitsValue (digitValue b) digits := by
        simp [digitsValue]
      rw [hvalue] at hlt ⊢
      rw [List.cons_append, readNumber, if_neg hfirst, if_pos hb,
        keepDigits_append hdigits hrest hlt]
      have htake : rest.takeWhile isDigit = [] := by
        cases rest with
        | nil => rfl
        | cons c rest =>
          have hc : isDigit c = false := hrest.startsWithDigit
          simp [hc]
      simp only [htake]
      exact readAfterInteger_of_endsNumber negative _ hrest

/-! ## What is written -/

/-- A decimal digit is one byte, which has its value. -/
theorem exists_encodeChar_of_isDigit {c : Char} (h : c.isDigit = true) :
    ∃ b, encodeChar c = [b] ∧ isDigit b = true ∧ digitValue b = c.toNat - '0'.toNat := by
  have hc : 48 ≤ c.toNat ∧ c.toNat ≤ 57 := Char.isDigit_iff_toNat.1 h
  have hn := Utf8.toNat_ofNat_of_lt (n := c.toNat) (by omega)
  refine ⟨UInt8.ofNat c.toNat, ?_, ?_, ?_⟩
  · rw [encodeChar, if_pos (by omega)]
  · simp only [isDigit, UInt8.le_iff_toNat_le, hn, Bool.and_eq_true, decide_eq_true_eq]
    exact hc
  · rw [digitValue, hn]
    rfl

/-- Decimal digits as bytes, which spell the same number. -/
theorem digits_encodeChars (value : Nat) {cs : List Char} (h : ∀ c ∈ cs, c.isDigit = true) :
    (∀ b ∈ encodeChars cs, isDigit b = true) ∧
      digitsValue value (encodeChars cs) = Nat.ofDigitChars 10 cs value := by
  induction cs generalizing value with
  | nil => exact ⟨nofun, rfl⟩
  | cons c cs ih =>
    obtain ⟨hc, hcs⟩ := List.forall_mem_cons.1 h
    obtain ⟨b, hbytes, hb, hvalue⟩ := exists_encodeChar_of_isDigit hc
    obtain ⟨hdigits, htail⟩ := ih (value * 10 + (c.toNat - '0'.toNat)) hcs
    rw [Utf8.encodeChars_cons, hbytes]
    refine ⟨List.forall_mem_cons.2 ⟨hb, hdigits⟩, ?_⟩
    simp only [digitsValue, List.cons_append, List.nil_append, List.foldl_cons, hvalue] at htail ⊢
    rw [htail, Nat.ofDigitChars_cons]
    congr 1
    omega

/-- A number other than zero is not written with a zero in front. -/
theorem eq_zero_of_head?_toDigits {n : Nat} (h : (Nat.toDigits 10 n).head? = some '0') : n = 0 := by
  induction n using Nat.strongRecOn with
  | _ n ih =>
    rw [Nat.toDigits_eq_if (by decide)] at h
    by_cases hn : n < 10
    · rw [if_pos hn] at h
      have hzero := congrArg Char.toNat (Option.some.inj h)
      rw [Nat.toNat_digitChar_of_lt_ten hn] at hzero
      simpa using hzero
    · rw [if_neg hn, List.head?_append_of_ne_nil _ Nat.toDigits_ne_nil] at h
      have := ih (n / 10) (by omega) h
      omega

theorem isDigit_of_mem_toDigits {m : Nat} : ∀ c ∈ Nat.toDigits 10 m, c.isDigit = true :=
  fun _ hc => Nat.isDigit_of_mem_toDigits (by decide) (by decide) hc

/-- The digits of a number are read as that number. -/
theorem readNumber_toDigits (negative : Bool) {m : Nat} (hm : m < 0x10000000000000000)
    (hrest : EndsNumber rest) :
    readNumber negative (encodeChars (Nat.toDigits 10 m) ++ rest) =
      .ok (integerNumber negative m, rest) := by
  obtain ⟨hdigits, hvalue⟩ := digits_encodeChars 0 (isDigit_of_mem_toDigits (m := m))
  rw [Nat.ofDigitChars_toDigits (by decide) (by decide)] at hvalue
  have hfirst : ∀ c cs, Nat.toDigits 10 m = c :: cs →
      ∃ b, encodeChar c = [b] ∧ (b = 0x30 → m = 0) := by
    intro c cs hcs
    have hc : c.isDigit = true := isDigit_of_mem_toDigits (m := m) c (hcs ▸ List.mem_cons_self)
    obtain ⟨b, hb, -, hbvalue⟩ := exists_encodeChar_of_isDigit hc
    refine ⟨b, hb, ?_⟩
    rintro rfl
    apply eq_zero_of_head?_toDigits
    have hle : '0'.toNat ≤ c.toNat := (Char.isDigit_iff_toNat.1 hc).1
    have hsub : c.toNat - '0'.toNat = 0 := hbvalue.symm
    have hzero : c = '0' := Char.toNat_inj.1 (by omega)
    rw [hcs, hzero, List.head?_cons]
  cases hcs : Nat.toDigits 10 m with
  | nil => exact absurd hcs Nat.toDigits_ne_nil
  | cons c cs =>
    obtain ⟨b, hb, hbzero⟩ := hfirst c cs hcs
    have hbytes : encodeChars (c :: cs) = b :: encodeChars cs := by
      rw [Utf8.encodeChars_cons, hb, List.singleton_append]
    rw [hcs] at hdigits hvalue
    rw [readNumber_digits negative hdigits (by simp [hbytes]) ?_ (by omega) hrest, hvalue]
    intro hhead
    rw [hbytes, List.head?_cons] at hhead
    obtain rfl := hbzero (Option.some.inj hhead)
    rw [← hcs]
    rfl

/-- A number is written with a digit in front. -/
theorem exists_isDigit_toDigits (m : Nat) :
    ∃ b tail, encodeChars (Nat.toDigits 10 m) = b :: tail ∧ isDigit b = true := by
  cases hcs : Nat.toDigits 10 m with
  | nil => exact absurd hcs Nat.toDigits_ne_nil
  | cons c cs =>
    have hc : c.isDigit = true := isDigit_of_mem_toDigits (m := m) c (hcs ▸ List.mem_cons_self)
    obtain ⟨b, hb, hdigit, -⟩ := exists_encodeChar_of_isDigit hc
    refine ⟨b, encodeChars cs, ?_, hdigit⟩
    rw [Utf8.encodeChars_cons, hb, List.singleton_append]

theorem writeNumber_integer (i : Int) :
    writeNumber (.integer i) =
      (if i < 0 then ['-'] else []) ++ Nat.toDigits 10 i.natAbs := by
  cases i with
  | ofNat m =>
    change (String.ofList (Nat.toDigits 10 m)).toList = _
    rw [String.toList_ofList, if_neg (by simp)]
    rfl
  | negSucc m =>
    change ("-" ++ String.ofList (Nat.toDigits 10 (m + 1))).toList = _
    simp only [String.toList_append, String.toList_ofList, if_pos (Int.negSucc_lt_zero m)]
    rfl

end Switchboard.Json
