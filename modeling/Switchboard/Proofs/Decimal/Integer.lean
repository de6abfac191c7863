import Switchboard.Decimal.Integer
import Switchboard.Proofs.Json.Numbers

/-!
# Which texts are integers of 64 bits

A numeral is an optional sign and digits, as many as one likes. It is read exactly when its value
fits. The digits are taken from the left, so the values on the way only move away from zero: none of
them leaves the range when the last one does not.
-/

namespace Switchboard.Decimal

/-- One or more decimal digits. -/
def Digits (cs : List Char) : Prop := cs ≠ [] ∧ ∀ c ∈ cs, c.isDigit = true

instance (cs : List Char) : Decidable (Digits cs) :=
  decidable_of_iff (cs ≠ [] ∧ cs.all Char.isDigit = true) (and_congr_right' List.all_eq_true)

/-- An integer in decimal, with an optional sign and any number of zeros in front. -/
inductive Numeral : List Char → Int → Prop
  | unsigned {digits : List Char} (h : Digits digits) :
    Numeral digits (Nat.ofDigitChars 10 digits 0)
  | plus {digits : List Char} (h : Digits digits) :
    Numeral ('+' :: digits) (Nat.ofDigitChars 10 digits 0)
  | minus {digits : List Char} (h : Digits digits) :
    Numeral ('-' :: digits) (-(Nat.ofDigitChars 10 digits 0 : Nat))

/-- The integer of a sign and an absolute value. -/
def signed (negative : Bool) (value : Nat) : Int := if negative then -value else value

variable {negative : Bool} {value greater : Nat} {i : Int} {c : Char} {cs digits : List Char}

/-! ## Digits -/

theorem digitValue?_of_isDigit (h : c.isDigit = true) :
    digitValue? 10 c = some (c.toNat - '0'.toNat) := by
  obtain ⟨-, hle⟩ := Char.isDigit_iff_toNat.1 h
  have hlt : c.toNat - '0'.toNat < 10 := by
    have hnine : '9'.toNat = '0'.toNat + 9 := rfl
    omega
  unfold digitValue?
  rw [if_pos h]
  exact Option.filter_some_pos (decide_eq_true hlt)

theorem digitValue?_of_not_isDigit (h : c.isDigit = false) : digitValue? 10 c = none := by
  unfold digitValue?
  simp only [h, Bool.false_eq_true, if_false]
  by_cases hlower : 'a' ≤ c ∧ c ≤ 'z'
  · simp [hlower]
  · by_cases hupper : 'A' ≤ c ∧ c ≤ 'Z'
    · simp [hlower, hupper]
    · simp [hlower, hupper]

/-- A further digit moves the value away from zero. -/
theorem signed_digit (negative : Bool) (value d : Nat) :
    (if negative then signed negative value * (10 : Nat) - d
      else signed negative value * (10 : Nat) + d) = signed negative (10 * value + d) := by
  cases negative
  · simp only [signed, Bool.false_eq_true, if_false]
    omega
  · simp only [signed, if_true]
    omega

theorem readDigits_cons_of_isDigit (h : c.isDigit = true) :
    readDigits 10 negative (signed negative value) (c :: digits) =
      let next := signed negative (10 * value + (c.toNat - '0'.toNat))
      if FitsInt64 next then readDigits 10 negative next digits
      else .error (if negative then .tooSmall else .tooLarge) := by
  rw [← signed_digit, readDigits, digitValue?_of_isDigit h]

theorem le_ofDigitChars (value : Nat) (digits : List Char) :
    value ≤ Nat.ofDigitChars 10 digits value := by
  induction digits generalizing value with
  | nil => exact Nat.le_refl value
  | cons c digits ih =>
    rw [Nat.ofDigitChars_cons]
    have := ih (10 * value + (c.toNat - '0'.toNat))
    omega

/-- What is nearer to zero than a value that fits, fits. -/
theorem fitsInt64_signed_of_le (h : FitsInt64 (signed negative greater)) (hle : value ≤ greater) :
    FitsInt64 (signed negative value) := by
  unfold FitsInt64 signed at *
  cases negative
  · simp only [Bool.false_eq_true, if_false] at *
    omega
  · simp only [if_true] at *
    omega

/-- Digits are read after those of a value that fits exactly when the whole fits. -/
theorem readDigits_eq_ok_iff (hvalue : FitsInt64 (signed negative value)) :
    readDigits 10 negative (signed negative value) digits = .ok i ↔
      (∀ c ∈ digits, c.isDigit = true) ∧
        i = signed negative (Nat.ofDigitChars 10 digits value) ∧ FitsInt64 i := by
  induction digits generalizing value with
  | nil =>
    unfold readDigits
    constructor
    · intro h
      obtain rfl := Except.ok.inj h
      exact ⟨nofun, rfl, hvalue⟩
    · rintro ⟨-, rfl, -⟩
      rfl
  | cons c digits ih =>
    rw [List.forall_mem_cons]
    by_cases hc : c.isDigit = true
    · rw [readDigits_cons_of_isDigit hc, Nat.ofDigitChars_cons]
      by_cases hnext : FitsInt64 (signed negative (10 * value + (c.toNat - '0'.toNat)))
      · rw [if_pos hnext, ih hnext, and_iff_right hc]
      · rw [if_neg hnext]
        refine iff_of_false nofun ?_
        rintro ⟨-, rfl, hfits⟩
        exact hnext (fitsInt64_signed_of_le hfits (le_ofDigitChars _ digits))
    · rw [readDigits, digitValue?_of_not_isDigit (Bool.eq_false_iff.2 hc)]
      exact iff_of_false nofun fun h => hc h.1.1

/-! ## Numerals -/

theorem fitsInt64_zero (negative : Bool) : FitsInt64 (signed negative 0) := by
  cases negative <;> decide

/-- Digits alone are read as what they spell. -/
theorem readDigits_zero_eq_ok_iff (hne : digits ≠ []) :
    readDigits 10 negative 0 digits = .ok i ↔
      Digits digits ∧ i = signed negative (Nat.ofDigitChars 10 digits 0) ∧ FitsInt64 i := by
  have hzero : signed negative 0 = 0 := by cases negative <;> rfl
  have h : readDigits 10 negative (signed negative 0) digits = .ok i ↔ _ :=
    readDigits_eq_ok_iff (fitsInt64_zero negative)
  rw [hzero] at h
  rw [h, Digits, and_iff_right hne]

theorem numeral_plus_iff : Numeral ('+' :: digits) i ↔
    Digits digits ∧ i = signed false (Nat.ofDigitChars 10 digits 0) := by
  constructor
  · intro h
    cases h with
    | unsigned h => exact absurd (h.2 '+' List.mem_cons_self) (by decide)
    | plus h => exact ⟨h, rfl⟩
  · rintro ⟨h, rfl⟩
    exact .plus h

theorem numeral_minus_iff : Numeral ('-' :: digits) i ↔
    Digits digits ∧ i = signed true (Nat.ofDigitChars 10 digits 0) := by
  constructor
  · intro h
    cases h with
    | unsigned h => exact absurd (h.2 '-' List.mem_cons_self) (by decide)
    | minus h => exact ⟨h, rfl⟩
  · rintro ⟨h, rfl⟩
    exact .minus h

theorem numeral_unsigned_iff (hplus : c ≠ '+') (hminus : c ≠ '-') : Numeral (c :: digits) i ↔
    Digits (c :: digits) ∧ i = signed false (Nat.ofDigitChars 10 (c :: digits) 0) := by
  constructor
  · intro h
    cases h with
    | unsigned h => exact ⟨h, rfl⟩
    | plus h => exact absurd rfl hplus
    | minus h => exact absurd rfl hminus
  · rintro ⟨h, rfl⟩
    exact .unsigned h

/-- What is read is a numeral whose value fits, and its value is what it is read as. -/
theorem readInteger_eq_ok_iff : readInteger 10 cs = .ok i ↔ Numeral cs i ∧ FitsInt64 i := by
  unfold readInteger
  split
  · refine iff_of_false nofun fun h => ?_
    cases h.1 with
    | unsigned hdigits => exact hdigits.1 rfl
  · exact iff_of_false nofun fun h => (numeral_plus_iff.1 h.1).1.1 rfl
  · exact iff_of_false nofun fun h => (numeral_minus_iff.1 h.1).1.1 rfl
  · next digits hne =>
    rw [readDigits_zero_eq_ok_iff (by rintro rfl; exact hne rfl), numeral_plus_iff, and_assoc]
  · next digits hne =>
    rw [readDigits_zero_eq_ok_iff (by rintro rfl; exact hne rfl), numeral_minus_iff, and_assoc]
  · next hne _ _ hplus hminus =>
    cases cs with
    | nil => exact absurd rfl hne
    | cons c digits =>
      have hc : c ≠ '+' := by rintro rfl; exact hplus _ rfl
      have hc' : c ≠ '-' := by rintro rfl; exact hminus _ rfl
      rw [readDigits_zero_eq_ok_iff (List.cons_ne_nil c digits), numeral_unsigned_iff hc hc',
        and_assoc]

/-! ## Writing -/

/-- What is written for an integer is a numeral of its value. -/
theorem numeral_toString (i : Int) : Numeral (toString i).toList i := by
  have hdigits : Digits (Nat.toDigits 10 i.natAbs) :=
    ⟨Nat.toDigits_ne_nil, Json.isDigit_of_mem_toDigits⟩
  have hvalue : Nat.ofDigitChars 10 (Nat.toDigits 10 i.natAbs) 0 = i.natAbs :=
    Nat.ofDigitChars_ten_toDigits
  have hwritten : (toString i).toList =
      (if i < 0 then ['-'] else []) ++ Nat.toDigits 10 i.natAbs := Json.writeNumber_integer i
  rw [hwritten]
  by_cases hi : i < 0
  · have h := Numeral.minus hdigits
    rw [hvalue] at h
    rw [if_pos hi]
    have : -(i.natAbs : Int) = i := by omega
    rwa [this] at h
  · have h := Numeral.unsigned hdigits
    rw [hvalue] at h
    rw [if_neg hi]
    have : (i.natAbs : Int) = i := by omega
    rwa [this] at h

end Switchboard.Decimal
