import Mathlib.Data.List.DropRight
import Switchboard.Json.Skip
import Switchboard.Proofs.Json.Accepted
import Switchboard.Proofs.Json.Strings

/-!
# Passing over what can be read

Where a value can be read, passing over it comes to the same place. Passing over keeps the brackets
that are open, where reading goes down into lists and objects; what it does after a value that is
inside of some brackets is `skipOn`.
-/

namespace Switchboard.Json

variable {bytes rest final : Bytes} {bound depth left : Nat} {first : Bool}

/-! ## Strings -/

theorem skipString_unicode {tail : Bytes} {unit : Nat} (h : hexUnit tail = .ok unit) :
    skipString (0x5C :: 0x75 :: tail) = skipString (tail.drop 4) := by
  have hsize : escapeSize (0x75 :: tail) = .ok 5 := by
    simp [escapeSize, h, Except.map]
  rw [skipString, if_neg (by decide), if_pos rfl, hsize]
  rfl

/-- An escape is passed over as it is read; a pair of halves is passed over as two. -/
theorem skipString_escape {c : Char} {size : Nat} (h : escape bytes = .ok (c, size)) :
    skipString (0x5C :: bytes) = skipString (bytes.drop size) := by
  rcases escape_eq_ok h with ⟨b, tail, rfl, hb, rfl⟩ | ⟨tail, unit, rfl, hunit, hsize⟩
  · have hsize : escapeSize (b :: tail) = .ok 1 := by
      rw [escapeSize, if_neg hb, h]
      rfl
    rw [skipString, if_neg (by decide), if_pos rfl, hsize]
  · rw [skipString_unicode hunit]
    rcases hsize with rfl | ⟨rfl, more, second, hmore, hsecond⟩
    · rfl
    · have hdrop : (0x75 :: tail).drop 11 = more.drop 4 := by
        change tail.drop 10 = _
        rw [show 10 = 4 + 6 from rfl, ← List.drop_drop, hmore]
        rfl
      rw [hmore, hdrop, skipString_unicode hsecond]

theorem skipString_stringBytes {done content : Bytes}
    (h : stringBytes done bytes = .ok (content, rest)) : skipString bytes = .ok rest := by
  fun_induction stringBytes done bytes with
  | case1 => cases h
  | case2 done tail =>
    obtain ⟨-, rfl⟩ := Prod.mk.inj (Except.ok.inj h)
    rw [skipString, if_pos rfl]
  | case3 => cases h
  | case4 done tail c size hescape hquote ih => rw [skipString_escape hescape, ih h]
  | case5 => cases h
  | case6 done b tail hquote hbackslash hcontrol ih =>
    rw [skipString, if_neg hquote, if_neg hbackslash, if_neg hcontrol, ih h]

theorem skipString_readString {s : String} (h : readString bytes = .ok (s, rest)) :
    skipString bytes = .ok rest := by
  obtain ⟨⟨content, after⟩, hcontent, h⟩ := Except.exists_of_bind_eq_ok h
  have hafter := skipString_stringBytes hcontent
  dsimp only at h
  split at h
  · obtain ⟨-, rfl⟩ := Prod.mk.inj (Except.ok.inj h)
    exact hafter
  · cases h

/-! ## Numbers -/

theorem eq_of_scaledNumber {negative : Bool} {significand : Nat} {exponent : Int} {n : JsonNumber}
    (h : scaledNumber negative significand exponent bytes = .ok (n, rest)) : rest = bytes := by
  unfold scaledNumber at h
  split at h
  · exact (Prod.mk.inj (Except.ok.inj h)).2.symm
  · cases h

theorem eq_of_exponentDigits {negative down : Bool} {significand exponent : Nat} {start : Int}
    {n : JsonNumber}
    (h : exponentDigits negative significand start down exponent bytes = .ok (n, rest)) :
    rest = bytes.dropWhile isDigit := by
  induction bytes generalizing exponent with
  | nil => exact eq_of_scaledNumber h
  | cons b tail ih =>
    rw [exponentDigits] at h
    by_cases hb : isDigit b = true
    · rw [List.dropWhile_cons, if_pos hb]
      rw [if_neg (by simp [hb])] at h
      split at h
      · exact ih h
      split at h
      · cases h
      · exact (Prod.mk.inj (Except.ok.inj h)).2.symm
    · rw [List.dropWhile_cons, if_neg hb]
      rw [if_pos (by simpa using hb)] at h
      exact eq_of_scaledNumber h

theorem skipExponent_readExponent {negative : Bool} {significand : Nat} {start : Int}
    {n : JsonNumber} (h : readExponent negative significand start bytes = .ok (n, rest)) :
    skipExponent bytes = .ok rest := by
  obtain ⟨down, b, tail, hbytes, hb, hdigits⟩ := readExponent_eq_ok h
  obtain rfl := eq_of_exponentDigits hdigits
  have hskip : (if startsWithDigit (b :: tail) then Except.ok ((b :: tail).dropWhile isDigit)
      else .error (Stop.after .invalidNumber ((b :: tail).drop 1))) =
      .ok (tail.dropWhile isDigit) := by
    rw [startsWithDigit, if_pos hb, List.dropWhile_cons, if_pos hb]
  have hsign {c : UInt8} (hc : isDigit c = false) : b ≠ c := ne_of_isDigit hb hc
  rcases hbytes with rfl | rfl | rfl
  · rw [← hskip]
    simp [skipExponent, hsign (c := 0x2B) rfl, hsign (c := 0x2D) rfl]
  · exact hskip
  · exact hskip

theorem dropWhile_keepDigits (significand count : Nat) (bytes : Bytes) :
    (keepDigits significand count bytes).2.2.dropWhile isDigit = bytes.dropWhile isDigit := by
  induction bytes generalizing significand count with
  | nil => rfl
  | cons b tail ih =>
    rw [keepDigits]
    split
    · next hkept => rw [ih, List.dropWhile_cons, if_pos hkept.1]
    · rfl

theorem startsWithDigit_of_readFraction {negative : Bool} {significand : Nat} {start : Int}
    {n : JsonNumber} (h : readFraction negative significand start bytes = .ok (n, rest)) :
    startsWithDigit bytes = true := by
  simp only [readFraction] at h
  split at h
  · cases h
  split at h
  · cases h
  · next hdigit => simpa using hdigit

/-- The bytes after what follows the integral digits of a number. -/
def skipAfterInteger : Bytes → Except Stop Bytes
  | 0x2E :: fraction => do
    if !startsWithDigit fraction then throw (.at .invalidNumber fraction)
    let after := fraction.dropWhile isDigit
    if startsExponent after then skipExponent (after.drop 1) else return after
  | after => if startsExponent after then skipExponent (after.drop 1) else return after

theorem skipNumber_cons (b : UInt8) (tail : Bytes) :
    skipNumber (b :: tail) =
      if b = 0x30 then
        if startsWithDigit tail then .error (.at .invalidNumber tail) else skipAfterInteger tail
      else if isDigit b then skipAfterInteger (tail.dropWhile isDigit)
      else .error (.after .invalidNumber tail) := by
  rw [skipNumber]
  split
  · split <;> rfl
  · split <;> rfl

theorem skipAfterInteger_point (fraction : Bytes) (hdigit : startsWithDigit fraction = true) :
    skipAfterInteger (0x2E :: fraction) =
      if startsExponent (fraction.dropWhile isDigit) then
        skipExponent ((fraction.dropWhile isDigit).drop 1)
      else .ok (fraction.dropWhile isDigit) := by
  simp [skipAfterInteger, hdigit, pure, Except.pure]

theorem skipAfterInteger_readFraction {negative : Bool} {significand : Nat} {start : Int}
    {n : JsonNumber} (h : readFraction negative significand start bytes = .ok (n, rest)) :
    skipAfterInteger (0x2E :: bytes) = .ok rest := by
  rw [skipAfterInteger_point bytes (startsWithDigit_of_readFraction h)]
  simp only [readFraction, dropWhile_keepDigits] at h
  split at h
  · cases h
  split at h
  · cases h
  split at h
  · next hexponent =>
    rw [if_pos hexponent]
    exact skipExponent_readExponent h
  · next hexponent => rw [if_neg hexponent, eq_of_scaledNumber h]

theorem skipAfterInteger_readAfterInteger {negative long : Bool} {significand start : Nat}
    {n : JsonNumber} (h : readAfterInteger negative significand long start bytes = .ok (n, rest)) :
    skipAfterInteger bytes = .ok rest := by
  unfold readAfterInteger at h
  split at h
  · exact skipAfterInteger_readFraction h
  · next _ hpoint =>
    rw [skipAfterInteger.eq_2 _ hpoint]
    split at h
    · next hexponent =>
      rw [if_pos hexponent]
      exact skipExponent_readExponent h
    · next hexponent =>
      have hrest : rest = bytes := by
        split at h
        · exact eq_of_scaledNumber h
        split at h
        · exact (Prod.mk.inj (Except.ok.inj h)).2.symm
        split at h
        · exact (Prod.mk.inj (Except.ok.inj h)).2.symm
        · exact (Prod.mk.inj (Except.ok.inj h)).2.symm
      rw [if_neg hexponent, hrest]
      rfl

theorem skipNumber_readNumber {negative : Bool} {n : JsonNumber}
    (h : readNumber negative bytes = .ok (n, rest)) : skipNumber bytes = .ok rest := by
  cases bytes with
  | nil => cases h
  | cons b tail =>
    rw [skipNumber_cons]
    rw [readNumber] at h
    split at h
    · next hzero =>
      rw [if_pos hzero]
      split at h
      · cases h
      · next hdigit =>
        rw [if_neg hdigit]
        exact skipAfterInteger_readAfterInteger h
    · next hzero =>
      rw [if_neg hzero]
      split at h
      · next hdigit =>
        rw [if_pos hdigit]
        have hdrop (digits : Bytes) :
            digits.drop (digits.takeWhile isDigit).length = digits.dropWhile isDigit := by
          conv => lhs; arg 2; rw [← List.takeWhile_append_dropWhile (p := isDigit) (l := digits)]
          exact List.drop_left
        have hread := skipAfterInteger_readAfterInteger h
        rw [hdrop, dropWhile_keepDigits] at hread
        exact hread
      · cases h

/-! ## Values -/

theorem skipSpace_skipSpace (bytes : Bytes) : skipSpace (skipSpace bytes) = skipSpace bytes :=
  List.dropWhile_idempotent isSpace bytes

theorem skipFront_scalar {v : Json} (h : Scalar (skipSpace bytes) v rest) :
    skipFront bytes = .ok (none, rest) := by
  generalize hspace : skipSpace bytes = front at h
  cases h with
  | null => simp [skipFront, hspace, isDigit, readWord, bind, Except.bind, pure, Except.pure]
  | true => simp [skipFront, hspace, isDigit, readWord, bind, Except.bind, pure, Except.pure]
  | false => simp [skipFront, hspace, isDigit, readWord, bind, Except.bind, pure, Except.pure]
  | negative hn =>
    simp [skipFront, hspace, skipNumber_readNumber hn, bind, Except.bind, pure, Except.pure]
  | @digits b _ _ _ hb hn =>
    have hne {c : UInt8} (hc : isDigit c = false) : b ≠ c := ne_of_isDigit hb hc
    simp [skipFront, hspace, hne (c := 0x5B) rfl, hne (c := 0x7B) rfl, hne (c := 0x2D) rfl, hb,
      skipNumber_readNumber hn, bind, Except.bind, pure, Except.pure]
  | string hs =>
    simp [skipFront, hspace, isDigit, skipString_readString hs, bind, Except.bind, pure,
      Except.pure]

/-! ## Lists and objects -/

/-- Passing over what is left after a value that stands inside of some brackets. -/
def skipOn (left : Nat) (opened : List Bracket) (fresh : Bool) (bytes : Bytes) : Except Stop Bytes := do
  let (opened, rest) ← skipEnds opened fresh bytes
  match opened with
  | [] => return rest
  | .list :: _ => skipFrom left opened rest
  | .object :: _ => skipFrom left opened (← skipKey rest)

variable {opened : List Bracket}

theorem skipFrom_succ (left : Nat) (opened : List Bracket) (bytes : Bytes) :
    skipFrom (left + 1) opened bytes = (do
      let (bracket, rest) ← skipFront bytes
      skipOn left (bracket.toList ++ opened) bracket.isSome rest) := rfl

/-- Blanks before a value make no difference. -/
theorem skipFrom_of_skipSpace_eq {front : Bytes} (h : skipFrom left opened bytes = .ok final)
    (hspace : skipSpace bytes = skipSpace front) : skipFrom left opened front = .ok final := by
  cases left with
  | zero => cases h
  | succ left =>
    rw [skipFrom_succ, skipFront] at h ⊢
    rw [← hspace]
    exact h

theorem skipEnds_list (h : skipSpace bytes = 0x5D :: rest) (first : Bool) :
    skipEnds (.list :: opened) first bytes = skipEnds opened false rest := by
  conv_lhs => unfold skipEnds
  rw [h]
  simp

theorem skipEnds_object (h : skipSpace bytes = 0x7D :: rest) (first : Bool) :
    skipEnds (.object :: opened) first bytes = skipEnds opened false rest := by
  conv_lhs => unfold skipEnds
  rw [h]
  simp

/-- Where a list goes on, nothing is ended. -/
theorem skipEnds_nextItem (opened : List Bracket) (h : nextItem first bytes = .ok (.part, rest)) :
    ∃ front, skipEnds (.list :: opened) first bytes = .ok (.list :: opened, front) ∧
      skipSpace front = rest := by
  obtain ⟨⟨b, tail, rfl, hb⟩, ⟨rfl, hspace⟩ | ⟨rfl, tail', hspace, hrest⟩⟩ := nextItem_eq_part h
  · refine ⟨b :: tail, ?_, by rw [← hspace, skipSpace_skipSpace]⟩
    unfold skipEnds
    rw [hspace]
    simp [hb]
  · refine ⟨tail', ?_, hrest⟩
    unfold skipEnds
    rw [hspace]
    simp

/-- Where an object goes on, nothing is ended. -/
theorem skipEnds_nextKey (opened : List Bracket) (h : nextKey first bytes = .ok (.part, rest)) :
    ∃ front, skipEnds (.object :: opened) first bytes = .ok (.object :: opened, front) ∧
      skipSpace front = 0x22 :: rest := by
  rcases nextKey_eq_part h with ⟨rfl, hspace⟩ | ⟨rfl, tail, hspace, hrest⟩
  · refine ⟨0x22 :: rest, ?_, rfl⟩
    unfold skipEnds
    rw [hspace]
    simp
  · refine ⟨tail, ?_, hrest⟩
    unfold skipEnds
    rw [hspace]
    simp

theorem skipKey_eq {front after colon : Bytes} {key : String} (hspace : skipSpace bytes = 0x22 :: front)
    (hkey : readString front = .ok (key, after)) (hcolon : readColon after = .ok colon) :
    skipKey bytes = .ok colon := by
  rw [skipKey, hspace]
  simp [skipString_readString hkey, hcolon, bind, Except.bind]

/-- Items of a list are passed over when each of them is. -/
theorem skipOn_items {item : Bytes → Except Stop (Json × Bytes)} {xs : List Json}
    (hitem : ∀ left opened bytes v rest final, item bytes = .ok (v, rest) →
      skipFrom left opened bytes = .ok final → ∃ left', skipOn left' opened false rest = .ok final)
    (hitems : Items item first bytes xs rest)
    (h : skipOn left (.list :: opened) first bytes = .ok final) :
    ∃ left', skipOn left' opened false rest = .ok final := by
  induction hitems generalizing left with
  | close hspace =>
    rw [skipOn, skipEnds_list hspace] at h
    exact ⟨left, h⟩
  | part hnext hread _ ih =>
    obtain ⟨front, hends, hspace⟩ := skipEnds_nextItem opened hnext
    rw [skipOn, hends] at h
    change skipFrom left (.list :: opened) front = _ at h
    have hfrom := skipFrom_of_skipSpace_eq h (skipSpace_skipSpace front).symm
    rw [hspace] at hfrom
    obtain ⟨left', hon⟩ := hitem _ _ _ _ _ _ hread hfrom
    exact ih hon

/-- Fields of an object are passed over when each of their values is. -/
theorem skipOn_fields {value : Bytes → Except Stop (Json × Bytes)} {fields : List (String × Json)}
    (hvalue : ∀ left opened bytes v rest final, value bytes = .ok (v, rest) →
      skipFrom left opened bytes = .ok final → ∃ left', skipOn left' opened false rest = .ok final)
    (hfields : Fields value first bytes fields rest)
    (h : skipOn left (.object :: opened) first bytes = .ok final) :
    ∃ left', skipOn left' opened false rest = .ok final := by
  induction hfields generalizing left with
  | close hspace =>
    rw [skipOn, skipEnds_object hspace] at h
    exact ⟨left, h⟩
  | part hnext hkey hcolon hread _ ih =>
    obtain ⟨front, hends, hspace⟩ := skipEnds_nextKey opened hnext
    rw [skipOn, hends] at h
    change (do
      let colon ← skipKey front
      skipFrom left (.object :: opened) colon) = _ at h
    obtain ⟨colon, hkeyed, h⟩ := Except.exists_of_bind_eq_ok h
    obtain rfl := Except.ok.inj (hkeyed.symm.trans (skipKey_eq hspace hkey hcolon))
    obtain ⟨left', hon⟩ := hvalue _ _ _ _ _ _ hread h
    exact ih hon

theorem skipFrom_scalar {v : Json} (hv : Scalar (skipSpace bytes) v rest)
    (h : skipFrom left opened bytes = .ok final) :
    ∃ left', skipOn left' opened false rest = .ok final := by
  cases left with
  | zero => cases h
  | succ left =>
    rw [skipFrom_succ, skipFront_scalar hv] at h
    exact ⟨left, h⟩

theorem skipFront_open {b : UInt8} (hspace : skipSpace bytes = b :: rest) (hb : b = 0x5B ∨ b = 0x7B) :
    skipFront bytes = .ok (some (if b = 0x5B then .list else .object), rest) := by
  rw [skipFront, hspace]
  rcases hb with rfl | rfl <;> rfl

/-- Passing over a value that can be read goes on after it. -/
theorem skipFrom_readValue {v : Json} (hread : readValue bound depth bytes = .ok (v, rest))
    (h : skipFrom left opened bytes = .ok final) :
    ∃ left', skipOn left' opened false rest = .ok final := by
  induction depth generalizing left opened bytes v rest final with
  | zero =>
    rcases readValue_eq_ok hread with hscalar | ⟨inner, tail, hdepth, -⟩
    · exact skipFrom_scalar hscalar h
    · cases hdepth
  | succ depth ih =>
    rcases readValue_eq_ok hread with hscalar | ⟨inner, tail, hdepth, hparts⟩
    · exact skipFrom_scalar hscalar h
    · obtain rfl := Nat.succ.inj hdepth
      have hvalue : ∀ left opened bytes v rest final, readValue bound depth bytes = .ok (v, rest) →
          skipFrom left opened bytes = .ok final →
          ∃ left', skipOn left' opened false rest = .ok final :=
        fun left opened bytes v rest final => ih
      cases left with
      | zero => cases h
      | succ left =>
        rw [skipFrom_succ] at h
        rcases hparts with ⟨items, hspace, rfl, hitems⟩ | ⟨pairs, hspace, rfl, hpairs⟩
        · rw [skipFront_open hspace (.inl rfl)] at h
          exact skipOn_items hvalue hitems h
        · rw [skipFront_open hspace (.inr rfl)] at h
          exact skipOn_fields hvalue hpairs h

/-- **Where a value can be read and passed over, both come to the same place.** -/
theorem skipValue_readValue {v : Json} (hread : readValue bound depth bytes = .ok (v, rest))
    (h : skipValue left bytes = .ok final) : final = rest := by
  obtain ⟨left', hon⟩ := skipFrom_readValue hread h
  exact (Except.ok.inj hon).symm

end Switchboard.Json
