import Switchboard.Processor.Number
import Switchboard.Proofs.Decimal.Integer
import Switchboard.Proofs.Processor.Template
import Switchboard.Proofs.Text.Blank
import Switchboard.Route.Basic

/-!
# Which texts are read as integers

A text is read as an integer when there is a numeral between its white space whose value has 64 bits.
The text that shows an integer is such a numeral, so it is read back with any white space around it.
-/

namespace Switchboard.Processor

open Decimal (Digits Numeral FitsInt64)
open Text (Blank Stripped isBlank trimBlank)

/-- What becomes of a text by the part of it between the white space at either end. -/
structure ReadAsInteger (t : String) (inner : List Char) : Prop where
  passed (i : Int) :
    (∃ n : Int64, n.toInt = i ∧ intParse.process (.text t) = (.passed (.int n), [])) ↔
      Numeral inner i ∧ -0x8000000000000000 ≤ i ∧ i ≤ 0x7FFFFFFFFFFFFFFF
  failed :
    (¬ ∃ i, Numeral inner i ∧ -0x8000000000000000 ≤ i ∧ i ≤ 0x7FFFFFFFFFFFFFFF) ↔
      ∃ e : Decimal.IntegerError, intParse.process (.text t) =
        (.failed (.invalidInput (Text.quoted t ++ " is not an integer: " ++ e.message)), [])

variable {t : String} {n : Int64} {i : Int} {c : Char} {inner lead trail : List Char}

/-! ## Reading -/

theorem fitsInt64_iff : FitsInt64 i ↔ -0x8000000000000000 ≤ i ∧ i ≤ 0x7FFFFFFFFFFFFFFF := by
  unfold FitsInt64
  omega

theorem fitsInt64_toInt (n : Int64) : FitsInt64 n.toInt := by
  have hle := n.le_toInt
  have hlt := n.toInt_lt
  unfold FitsInt64
  omega

theorem toInt_ofInt_of_fitsInt64 (h : FitsInt64 i) : (Int64.ofInt i).toInt = i :=
  Int64.toInt_ofInt_of_le (by unfold FitsInt64 at h; omega) (by unfold FitsInt64 at h; omega)

theorem parseInt_of_readInteger_eq_ok
    (h : Decimal.readInteger 10 (trimBlank t.toList) = .ok i) :
    intParse.process (.text t) = (.passed (.int (Int64.ofInt i)), []) := by
  show (parseInt (.text t), []) = _
  simp only [parseInt, parseWith, Payload.asText, Processed.ofView, h, Except.mapError]

theorem parseInt_of_readInteger_eq_error {e : Decimal.IntegerError}
    (h : Decimal.readInteger 10 (trimBlank t.toList) = .error e) :
    intParse.process (.text t) =
      (.failed (.invalidInput (Text.quoted t ++ " is not an integer: " ++ e.message)), []) := by
  show (parseInt (.text t), []) = _
  simp only [parseInt, parseWith, Payload.asText, Processed.ofView, h, Except.mapError]
  simp only [String.append_assoc]
  rfl

theorem intParse_eq_passed_iff : intParse.process (.text t) = (.passed (.int n), []) ↔
    Decimal.readInteger 10 (trimBlank t.toList) = .ok n.toInt := by
  cases h : Decimal.readInteger 10 (trimBlank t.toList) with
  | ok i =>
    have hfits : FitsInt64 i := (Decimal.readInteger_eq_ok_iff.1 h).2
    rw [parseInt_of_readInteger_eq_ok h]
    constructor
    · intro hpassed
      have hn : Int64.ofInt i = n := by
        injection hpassed with hpassed
        exact Payload.int.inj (Processed.passed.inj hpassed)
      rw [← hn, toInt_ofInt_of_fitsInt64 hfits]
    · intro hread
      rw [Except.ok.inj hread, Int64.ofInt_toInt]
  | error e =>
    rw [parseInt_of_readInteger_eq_error h]
    refine iff_of_false ?_ nofun
    intro hpassed
    injection hpassed with hpassed
    nomatch hpassed

theorem readAsInteger (h : Stripped t.toList inner) : ReadAsInteger t inner := by
  obtain rfl := h.eq_trimBlank
  constructor
  · intro i
    rw [← fitsInt64_iff, ← Decimal.readInteger_eq_ok_iff]
    constructor
    · rintro ⟨n, rfl, hpassed⟩
      exact intParse_eq_passed_iff.1 hpassed
    · intro hread
      have hn := toInt_ofInt_of_fitsInt64 (Decimal.readInteger_eq_ok_iff.1 hread).2
      exact ⟨Int64.ofInt i, hn, parseInt_of_readInteger_eq_ok hread⟩
  · simp only [← fitsInt64_iff, ← Decimal.readInteger_eq_ok_iff]
    cases hread : Decimal.readInteger 10 (trimBlank t.toList) with
    | ok i =>
      refine iff_of_false (fun hnone => hnone ⟨i, rfl⟩) ?_
      rintro ⟨e, hfailed⟩
      nomatch (Prod.mk.inj ((parseInt_of_readInteger_eq_ok hread).symm.trans hfailed)).1
    | error e =>
      exact iff_of_true nofun ⟨e, parseInt_of_readInteger_eq_error hread⟩

/-! ## Integers that are shown -/

theorem isBlank_of_isDigit (h : c.isDigit = true) : isBlank c = false := by
  obtain ⟨hge, hle⟩ := Char.isDigit_iff_toNat.1 h
  have hzero : '0'.toNat = 48 := rfl
  have hnine : '9'.toNat = 57 := rfl
  simp only [isBlank, Bool.or_eq_false_iff, Bool.and_eq_false_iff, decide_eq_false_iff_not,
    beq_eq_false_iff_ne]
  omega

theorem not_isBlank_of_digits (h : Digits inner) : ∀ c ∈ inner, isBlank c = false :=
  fun c hc => isBlank_of_isDigit (h.2 c hc)

theorem not_isBlank_of_numeral (h : Numeral inner i) : ∀ c ∈ inner, isBlank c = false := by
  cases h with
  | unsigned h => exact not_isBlank_of_digits h
  | plus h => exact List.forall_mem_cons.2 ⟨by decide, not_isBlank_of_digits h⟩
  | minus h => exact List.forall_mem_cons.2 ⟨by decide, not_isBlank_of_digits h⟩

theorem stripped_of_numeral (h : Numeral inner i) (hlead : Blank lead) (htrail : Blank trail) :
    Stripped (lead ++ inner ++ trail) inner where
  split := ⟨lead, trail, hlead, htrail, rfl⟩
  first c hc := not_isBlank_of_numeral h c (List.mem_of_head? hc)
  last c hc := not_isBlank_of_numeral h c (List.mem_of_getLast? hc)

/-- An integer that is shown is read back. -/
theorem intParse_display (n : Int64) (lead trail : String) (hlead : Blank lead.toList)
    (htrail : Blank trail.toList) :
    intParse.process (.text (lead ++ (Payload.int n).display ++ trail)) = (.passed (.int n), []) := by
  have hnumeral : Numeral (Payload.int n).display.toList n.toInt := Decimal.numeral_toString n.toInt
  have hstripped := stripped_of_numeral hnumeral hlead htrail
  rw [intParse_eq_passed_iff, String.toList_append, String.toList_append, ← hstripped.eq_trimBlank]
  exact Decimal.readInteger_eq_ok_iff.2 ⟨hnumeral, fitsInt64_toInt n⟩

theorem stringTemplate_hole {params : Params} (h : params.getString "template" = .ok "{}") :
    stringTemplate params =
      .ok (.quiet "string.template" fun p => .passed (.text p.display)) := by
  rw [stringTemplate_eq h]
  simp only [render_hole]

end Switchboard.Processor
